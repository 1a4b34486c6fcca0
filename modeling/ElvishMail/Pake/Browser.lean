import ElvishMail.Go.Base64
import ElvishMail.Js.Integers
import ElvishMail.Pake.Handshake

/-!
# The browser's side of the handshake

`static/auth/srp.js` is a second implementation of the client. It goes through
hexadecimal text where the server code has byte slices, multiplies its own powers,
and takes remainders that may be negative. Byte for byte it sends what the Go
client would send.
-/

namespace ElvishMail.Pake.Browser

open Go Js

def N : Nat := defaultGroup.N

def G : Nat := 2

/-- `N_HEX.length`. -/
def hexLength : Nat := 275

def padLen : Nat := (hexLength + 1) / 2

def bytesToB64 (bytes : List UInt8) : JsString := (base64Encode bytes).map UInt8.toUInt16

def bytesToBigInt (bytes : List UInt8) : Nat :=
  let hex := bytes.flatMap fun byte => padTwo (hexText byte.toNat)
  parseHex (if hex = [] then lit "00" else hex)

def hexBytes : JsString → List UInt8
  | high :: low :: rest => (parseHex [high, low]).toUInt8 :: hexBytes rest
  | _ => []

/-- `bigIntToBytes`; without a length to pad to, `none`. -/
def bigIntToBytes (num : Nat) (padLen : Option Nat) : List UInt8 :=
  let hex := hexText num
  let hex := if hex.length % 2 = 1 then 48 :: hex else hex
  let raw := hexBytes hex
  match padLen with
  | none => raw
  | some padLen =>
    if padLen = 0 ∨ padLen ≤ raw.length then raw
    else List.replicate (padLen - raw.length) 0 ++ raw

/-- The loop of `modPow`. -/
def modPowLoop (mod result b e : Nat) : Nat :=
  if e = 0 then result
  else modPowLoop mod (if e % 2 = 1 then result * b % mod else result) (b * b % mod) (e / 2)
termination_by e

/-- `modPow`; a remainder has the sign of what is divided. -/
def modPow (base : Int) (exp mod : Nat) : Nat :=
  modPowLoop mod 1 ((base.tmod mod + mod).tmod mod).toNat exp

section Protocol

variable (hash : Hash)

def sha256 (parts : List (List UInt8)) : List UInt8 := hash.sum parts.flatten

def multiplier : Nat :=
  bytesToBigInt (sha256 hash [bigIntToBytes N (some padLen), bigIntToBytes G (some padLen)])

def computeX (username password : JsString) (saltBytes : List UInt8) : Nat :=
  let inner := sha256 hash [encodeUtf8 (username ++ lit ":" ++ password)]
  bytesToBigInt (sha256 hash [saltBytes, inner])

/-- What `createRegistration` returns. -/
structure Registration where
  srpSaltB64 : JsString
  srpVerifierB64 : JsString
  srpGroup : JsString
  srpHash : JsString
deriving DecidableEq

/-- `createRegistration`, with the random salt that it draws. -/
def createRegistration (username password : JsString) (salt : List UInt8) : Registration :=
  let x := computeX hash username password salt
  let verifier := modPow G x N
  { srpSaltB64 := bytesToB64 salt
    srpVerifierB64 := bytesToB64 (bigIntToBytes verifier (some padLen))
    srpGroup := lit "rfc5054-2048"
    srpHash := lit "sha256" }

/-- What `begin` returns. -/
structure State where
  username : JsString
  password : JsString
  a : Nat
  A : Nat
  clientPublicB64 : JsString
deriving DecidableEq

/-- `begin`, with the random bytes that it draws. -/
def begin (username password : JsString) (random : List UInt8) : State :=
  let a := bytesToBigInt random
  let A := modPow G a N
  { username
    password
    a
    A
    clientPublicB64 := bytesToB64 (bigIntToBytes A (some padLen)) }

/-- What `clientProof` returns. -/
structure Proof where
  clientProofB64 : JsString
  expectedServerProofB64 : JsString
deriving DecidableEq

/-- The shared secret in `clientProof`. -/
def secret (state : State) (saltBytes : List UInt8) (B : Nat) : Nat :=
  let k := multiplier hash
  let u := bytesToBigInt
    (sha256 hash [bigIntToBytes state.A (some padLen), bigIntToBytes B (some padLen)])
  let x := computeX hash state.username state.password saltBytes
  let gx := modPow G x N
  let base := ((B : Int) - k * gx).tmod N
  let base := if base < 0 then base + N else base
  modPow base (state.a + u * x) N

def clientProof (state : State) (saltBytes serverPublicBytes : List UInt8) : Proof :=
  let B := bytesToBigInt serverPublicBytes
  let A := state.A
  let K := sha256 hash [bigIntToBytes (secret hash state saltBytes B) (some padLen)]
  let hN := sha256 hash [bigIntToBytes N (some padLen)]
  let hG := sha256 hash [bigIntToBytes G (some padLen)]
  let xor := List.zipWith (· ^^^ ·) hN hG
  let M1 := sha256 hash [xor, sha256 hash [encodeUtf8 state.username], saltBytes,
    bigIntToBytes A (some padLen), bigIntToBytes B (some padLen), K]
  let M2 := sha256 hash [bigIntToBytes A none, M1, K]
  { clientProofB64 := bytesToB64 M1
    expectedServerProofB64 := bytesToB64 M2 }

end Protocol

theorem padTwo_hexText (byte : UInt8) :
    (padTwo (hexText byte.toNat)).length = 2 ∧ parseHex (padTwo (hexText byte.toNat)) = byte.toNat := by
  have all : ∀ value : Nat, value < 256 → (padTwo (hexText value)).length = 2 ∧
      parseHex (padTwo (hexText value)) = value := by decide +kernel
  exact all byte.toNat byte.toNat_lt

theorem bytesToBigInt_eq (bytes : List UInt8) : bytesToBigInt bytes = setBytes bytes := by
  have text (bytes : List UInt8) :
      parseHex (bytes.flatMap fun byte => padTwo (hexText byte.toNat)) = setBytes bytes ∧
        (bytes.flatMap fun byte => padTwo (hexText byte.toNat)).length = 2 * bytes.length := by
    induction bytes with
    | nil => exact ⟨rfl, rfl⟩
    | cons byte rest ih =>
      obtain ⟨length, value⟩ := padTwo_hexText byte
      rw [List.flatMap_cons, parseHex_append, value, ih.1, List.length_append,
        length, ih.2, setBytes_cons, pow_mul]
      exact ⟨rfl, by rw [List.length_cons]; ring⟩
  unfold bytesToBigInt
  dsimp only
  split
  next empty =>
    rw [← (text bytes).1, empty]
    decide
  next => exact (text bytes).1

theorem parseHex_two {high low : UInt16} (first : hexValue high < 16) (second : hexValue low < 16) :
    (parseHex [high, low]).toUInt8.toNat = 16 * hexValue high + hexValue low := by
  have value : parseHex [high, low] = 16 * hexValue high + hexValue low := by
    simp [parseHex, Nat.ofDigits_cons]
    ring
  rw [value]
  have small : 16 * hexValue high + hexValue low < 256 := by omega
  simp [Nat.toUInt8, UInt8.toNat_ofNat', Nat.mod_eq_of_lt small]

theorem setBytes_hexBytes (hex : JsString) (digits : ∀ unit ∈ hex, hexValue unit < 16)
    (even : hex.length % 2 = 0) : setBytes (hexBytes hex) = parseHex hex ∧
      2 * (hexBytes hex).length = hex.length := by
  fun_induction hexBytes hex with
  | case1 high low rest ih =>
    have first := digits high List.mem_cons_self
    have second := digits low (List.mem_cons_of_mem _ List.mem_cons_self)
    obtain ⟨value, length⟩ := ih
      (fun unit member => digits unit (List.mem_cons_of_mem _ (List.mem_cons_of_mem _ member)))
      (by rw [List.length_cons, List.length_cons] at even; omega)
    constructor
    · rw [setBytes_cons, value, parseHex_two first second, parseHex_cons, parseHex_cons,
        List.length_cons, ← length, pow_succ, pow_mul]
      ring
    · rw [List.length_cons, List.length_cons, List.length_cons, ← length]
      ring
  | case2 hex short =>
    match hex, short with
    | [], _ => exact ⟨rfl, rfl⟩
    | [_], _ => simp at even
    | high :: low :: rest, short => exact absurd rfl (short high low rest)

theorem trimLeadingZeroes_of_head {byte : UInt8} {rest : List UInt8} (first : byte ≠ 0) :
    trimLeadingZeroes (byte :: rest) = byte :: rest := by
  have kept : (byte :: rest).dropWhile (· == 0) = byte :: rest :=
    List.dropWhile_cons_of_neg (by simpa using first)
  rw [trimLeadingZeroes, kept, if_neg (by simp)]

theorem bigIntToBytes_raw (num : Nat) :
    bigIntToBytes num none = trimLeadingZeroes (bigBytes num) := by
  by_cases zero : num = 0
  · subst zero
    decide
  obtain ⟨unit, rest, text, first⟩ := hexText_head zero
  have digits := hexText_digits num
  have value := parseHex_hexText num
  rw [text] at digits value
  -- The first byte is the first digit alone or the first two, and not zero.
  have bytes : ∃ byte others, bigIntToBytes num none = byte :: others ∧ byte ≠ 0 ∧
      setBytes (byte :: others) = num := by
    unfold bigIntToBytes
    dsimp only
    rw [text]
    split
    next odd =>
      have padded : ∀ other ∈ (48 :: unit :: rest : JsString), hexValue other < 16 := by
        intro other member
        rcases List.mem_cons.mp member with rfl | inside
        · decide
        · exact digits other inside
      have even : (48 :: unit :: rest).length % 2 = 0 := by
        rw [List.length_cons]
        omega
      have whole := (setBytes_hexBytes _ padded even).1
      have lead : (parseHex [48, unit]).toUInt8.toNat = hexValue unit := by
        rw [parseHex_two (by decide) (digits unit List.mem_cons_self)]
        exact Nat.zero_add _
      refine ⟨_, _, rfl, ?_, ?_⟩
      · intro none
        rw [none] at lead
        exact first lead.symm
      · rw [hexBytes] at whole
        have zero : hexValue 48 = 0 := by decide
        rw [whole, parseHex_cons, value, zero, zero_mul, zero_add]
    next odd =>
      cases rest with
      | nil => simp at odd
      | cons low rest =>
        have even : (unit :: low :: rest).length % 2 = 0 := by omega
        have whole := (setBytes_hexBytes _ digits even).1
        have lead := parseHex_two (digits unit List.mem_cons_self)
          (digits low (List.mem_cons_of_mem _ List.mem_cons_self))
        refine ⟨_, _, rfl, ?_, ?_⟩
        · intro none
          rw [none] at lead
          have : hexValue unit = 0 := by
            have sum : 0 = 16 * hexValue unit + hexValue low := lead
            omega
          exact first this
        · rw [hexBytes] at whole
          rw [whole, value]
  obtain ⟨byte, others, made, lead, total⟩ := bytes
  have same : bigBytes num = byte :: others := by
    rw [← total]
    exact bigBytes_setBytes (fun other head => by cases head; exact lead)
  rw [made, same, trimLeadingZeroes_of_head lead]

theorem bigIntToBytes_eq (num size : Nat) : bigIntToBytes num (some size) = padBig num size := by
  have raw := bigIntToBytes_raw num
  unfold bigIntToBytes at raw ⊢
  dsimp only at raw ⊢
  rw [raw, padBig, padBytes]
  by_cases long : size ≤ (trimLeadingZeroes (bigBytes num)).length
  · rw [if_pos (.inr long), if_pos long]
  · rw [if_neg long, if_neg]
    rintro (zero | short)
    · exact long (zero ▸ Nat.zero_le _)
    · exact long short

theorem modPowLoop_eq (mod result b e : Nat) (small : result < mod) :
    modPowLoop mod result b e = result * b ^ e % mod := by
  induction e using Nat.strong_induction_on generalizing result b with
  | _ e ih =>
    rw [modPowLoop]
    split
    next done => rw [done, pow_zero, mul_one, Nat.mod_eq_of_lt small]
    next more =>
    have square : (b * b % mod) ^ (e / 2) ≡ b ^ (2 * (e / 2)) [MOD mod] := by
      rw [pow_mul, sq]
      exact (Nat.mod_modEq _ _).pow _
    rw [ih _ (Nat.div_lt_self (Nat.pos_of_ne_zero more) (by decide))]
    · split
      next odd =>
        have step : result * b % mod * (b * b % mod) ^ (e / 2) ≡ result * b ^ e [MOD mod] := by
          have exponent : result * b * b ^ (2 * (e / 2)) = result * b ^ e := by
            rw [mul_assoc, ← pow_succ']
            congr 2
            omega
          rw [← exponent]
          exact (Nat.mod_modEq _ _).mul square
        exact step
      next even =>
        have step : result * (b * b % mod) ^ (e / 2) ≡ result * b ^ e [MOD mod] := by
          have exponent : 2 * (e / 2) = e := by omega
          rw [exponent] at square
          exact square.mul_left _
        exact step
    · split
      · exact Nat.mod_lt _ (Nat.zero_lt_of_lt small)
      · exact small

theorem modPow_eq (base exp : Nat) {mod : Nat} (one_lt : 1 < mod) :
    modPow base exp mod = bigExp base exp mod := by
  have nonneg : (0 : Int) ≤ base % mod + mod :=
    add_nonneg (Int.natCast_nonneg (base % mod)) (Int.natCast_nonneg mod)
  have reduced : (((base : Int).tmod mod + mod).tmod mod).toNat = base % mod := by
    rw [Int.tmod_eq_emod_of_nonneg (Int.natCast_nonneg base), Int.tmod_eq_emod_of_nonneg nonneg,
      Int.add_emod_right, Int.emod_emod_of_dvd _ dvd_rfl]
    rfl
  rw [modPow, reduced, modPowLoop_eq _ _ _ _ one_lt, one_mul, bigExp]
  exact ((Nat.mod_modEq base mod).pow exp)

theorem remainder_eq (value : Int) {mod : Nat} (positive : 0 < mod) :
    (if value.tmod mod < 0 then value.tmod mod + mod else value.tmod mod) = value % mod := by
  have lower : 0 ≤ value % mod := Int.emod_nonneg _ (by omega)
  have upper : value % mod < mod := Int.emod_lt_of_pos _ (by omega)
  have truncated : value.tmod mod = value % mod ∨ value.tmod mod = value % mod - mod := by
    rw [Int.tmod_eq_emod]
    split
    · exact .inl (sub_zero _)
    · exact .inr rfl
  rcases truncated with same | below
  · rw [same, if_neg (by omega)]
  · rw [below, if_pos (by omega)]
    ring

section Clients

variable (hash : Hash)

theorem padLen_eq : padLen = defaultGroup.padLen := by decide +kernel

theorem modPow_base (exp : Nat) : modPow G exp N = bigExp defaultGroup.G exp defaultGroup.N :=
  modPow_eq G exp defaultGroup.one_lt

theorem multiplier_eq : multiplier hash = Pake.multiplier hash defaultGroup := by
  rw [multiplier, bytesToBigInt_eq, bigIntToBytes_eq, bigIntToBytes_eq, padLen_eq]
  rfl

theorem computeX_eq (username password : JsString) (salt : List UInt8) :
    computeX hash username password salt =
      Pake.computeX hash (encodeUtf8 username) (encodeUtf8 password) salt := by
  have colon : encodeUtf8 (username ++ lit ":" ++ password) =
      encodeUtf8 username ++ ascii ":" ++ encodeUtf8 password := by
    rw [List.append_assoc]
    exact encodeUtf8_between username password (by decide) (by decide)
  rw [computeX, bytesToBigInt_eq, colon]
  rfl

theorem modPow_difference (value : Int) (exp : Nat) :
    modPow (if value.tmod N < 0 then value.tmod N + N else value.tmod N) exp N =
      bigExp (value % defaultGroup.N).toNat exp defaultGroup.N := by
  have positive : 0 < N := Nat.zero_lt_of_lt defaultGroup.one_lt
  have nonneg : 0 ≤ value % N := Int.emod_nonneg _ (by omega)
  rw [remainder_eq value positive, ← Int.toNat_of_nonneg nonneg]
  exact modPow_eq _ exp defaultGroup.one_lt

theorem scramble_eq (A B : Nat) :
    bytesToBigInt (sha256 hash [bigIntToBytes A (some padLen), bigIntToBytes B (some padLen)]) =
      scramble hash defaultGroup A B := by
  rw [bytesToBigInt_eq, bigIntToBytes_eq, bigIntToBytes_eq, padLen_eq]
  rfl

def sameClient (username password : JsString) (random : List UInt8) : ClientSession :=
  ⟨defaultGroup, encodeUtf8 username, encodeUtf8 password, setBytes random,
    bigExp defaultGroup.G (setBytes random) defaultGroup.N⟩

theorem begin_eq (username password : JsString) (random : List UInt8) :
    begin username password random =
      { username
        password
        a := (sameClient username password random).a
        A := (sameClient username password random).A
        clientPublicB64 := bytesToB64 (sameClient username password random).clientPublic } := by
  rw [begin, modPow_base, bigIntToBytes_eq, bytesToBigInt_eq, padLen_eq]
  rfl

theorem secret_eq (username password : JsString) (random salt : List UInt8) (B : Nat) :
    sha256 hash [bigIntToBytes (secret hash (begin username password random) salt B)
        (some padLen)] =
      (sameClient username password random).sharedKey hash salt B := by
  rw [begin_eq, bigIntToBytes_eq, secret]
  dsimp only
  rw [multiplier_eq, scramble_eq, computeX_eq, modPow_base, modPow_difference, padLen_eq]
  rfl

end Clients

/-- The browser sends what the Go client would send with the same exponent: the verifier,
the public value and the proof, and it expects the same proof of the server. -/
theorem browser_agrees (hash : Hash) (username password : JsString)
    (registrationSalt salt random serverPublic : List UInt8) (registration : Pake.Registration)
    (client : ClientSession) (m1 m2 : GoString)
    (registered : computeRegistration hash (encodeUtf8 username) (encodeUtf8 password)
      registrationSalt = .ok registration)
    (opened : newClientSessionWithPrivateExponent (encodeUtf8 username) (encodeUtf8 password)
      (some (bytesToBigInt random)) = .ok client)
    (processed : client.processChallenge hash salt serverPublic = .ok (m1, m2)) :
    (createRegistration hash username password registrationSalt).srpVerifierB64 =
        bytesToB64 registration.verifier ∧
      (begin username password random).clientPublicB64 = bytesToB64 client.clientPublic ∧
      clientProof hash (begin username password random) salt serverPublic =
        ⟨bytesToB64 m1, bytesToB64 m2⟩ := by
  have same : client = sameClient username password random := by
    obtain ⟨exponent, drawn, opened⟩ := privateExponent_ok opened
    obtain rfl : (bytesToBigInt random : Int) = exponent := Option.some.inj drawn
    rw [openClient_ok opened, Int.toNat_natCast, bytesToBigInt_eq]
    rfl
  subst same
  refine ⟨?_, ?_, ?_⟩
  · unfold computeRegistration at registered
    split at registered
    · cases registered
    cases registered
    rw [createRegistration, modPow_base, computeX_eq, bigIntToBytes_eq, padLen_eq]
  · rw [begin_eq]
  · unfold ClientSession.processChallenge at processed
    dsimp only at processed
    split at processed
    · cases processed
    split at processed
    · cases processed
    cases processed
    rw [clientProof, secret_eq, bytesToBigInt_eq, begin_eq, bigIntToBytes_raw, bigIntToBytes_eq,
      bigIntToBytes_eq, bigIntToBytes_eq, bigIntToBytes_eq, padLen_eq]
    rfl

/-- The browser in the handshake of the Go client. -/
theorem browser_agrees_unit :
    (createRegistration unitHash (lit "alice") (lit "secret") (List.replicate 16 7)).srpVerifierB64 =
        bytesToB64 unitRegistration.verifier ∧
      (begin (lit "alice") (lit "secret") [1]).clientPublicB64 =
        bytesToB64 unitClient.clientPublic ∧
      clientProof unitHash (begin (lit "alice") (lit "secret") [1]) (List.replicate 16 7) [4] =
        ⟨bytesToB64 (unitHash.sum []), bytesToB64 (unitHash.sum [])⟩ := by
  have registered : computeRegistration unitHash (encodeUtf8 (lit "alice"))
      (encodeUtf8 (lit "secret")) (List.replicate 16 7) = .ok unitRegistration := by decide +kernel
  have opened : newClientSessionWithPrivateExponent (encodeUtf8 (lit "alice"))
      (encodeUtf8 (lit "secret")) (some (bytesToBigInt [1])) = .ok unitClient := by decide +kernel
  have processed : unitClient.processChallenge unitHash (List.replicate 16 7) [4] =
      .ok (unitHash.sum [], unitHash.sum []) := by decide
  exact browser_agrees unitHash (lit "alice") (lit "secret") (List.replicate 16 7)
    (List.replicate 16 7) [1] [4] unitRegistration unitClient (unitHash.sum []) (unitHash.sum [])
    registered opened processed

end ElvishMail.Pake.Browser
