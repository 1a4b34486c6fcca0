import ElvishMail.Httpserver.Senders

/-!
# How long a link is kept

A request for a protected link says for how many seconds it is kept. The server multiplies
them out to nanoseconds, in 64 bits, and only then looks whether they are positive and not
more than thirty days. A product that wraps around may come out positive and small, or
negative. For every other number a link is created with the lifetime that was asked for.
-/

namespace ElvishMail.Httpserver

open Go Smtp Mailmeta Maillinks

def lifetimeSeconds (ttlSeconds : Int) : Int :=
  if 0 < ttlSeconds then ttlSeconds else 7 * 24 * 3600

/-- The product modulo 2^64 is where the exact one would be: not positive if that is not,
and more than thirty days if that is. Seven days are what is taken for no lifetime, and do
no harm either. -/
def ProductRight (ttlSeconds : Int) : Prop :=
  if ttlSeconds ≤ 0 then
    ttlSeconds * 1000000000 % 2 ^ 64 = 0 ∨ 2 ^ 63 ≤ ttlSeconds * 1000000000 % 2 ^ 64 ∨
      ttlSeconds * 1000000000 % 2 ^ 64 = 7 * 24 * 3600 * 1000000000
  else
    ttlSeconds ≤ 2592000 ∨
      2592000 * 1000000000 < ttlSeconds * 1000000000 % 2 ^ 64 ∧
        ttlSeconds * 1000000000 % 2 ^ 64 < 2 ^ 63

instance (ttlSeconds : Int) : Decidable (ProductRight ttlSeconds) :=
  inferInstanceAs (Decidable (ite _ _ _))

section Lifetimes

variable {ttlSeconds : Int}

theorem productRight_of_fits (least : -9223372036 ≤ ttlSeconds) (most : ttlSeconds ≤ 9223372036) :
    ProductRight ttlSeconds := by
  have lower : -2 ^ 63 < ttlSeconds * 1000000000 := by omega
  have upper : ttlSeconds * 1000000000 < 2 ^ 63 := by omega
  have sign : ttlSeconds ≤ 0 ↔ ttlSeconds * 1000000000 ≤ 0 := by omega
  have long : ttlSeconds ≤ 2592000 ↔ ttlSeconds * 1000000000 ≤ 2592000 * 1000000000 := by omega
  unfold ProductRight
  rw [long]
  generalize ttlSeconds * 1000000000 = product at *
  split <;> omega

theorem linkTTL_eq (ttlSeconds : Int) : linkTTL ttlSeconds =
    if 0 < ttlSeconds * 1000000000 % 2 ^ 64 ∧ ttlSeconds * 1000000000 % 2 ^ 64 < 2 ^ 63 then
      ttlSeconds * 1000000000 % 2 ^ 64
    else 7 * 24 * 3600 * 1000000000 := by
  unfold linkTTL
  dsimp only
  rw [Int.bmod_def]
  generalize ttlSeconds * 1000000000 = product
  split_ifs <;> omega

theorem linkTTL_right_iff : ((linkTTL ttlSeconds ≤ maxTTL ↔ ttlSeconds ≤ 2592000) ∧
      (linkTTL ttlSeconds ≤ maxTTL → linkTTL ttlSeconds = lifetimeSeconds ttlSeconds * 1000000000)) ↔
    ProductRight ttlSeconds := by
  have exact : 0 < ttlSeconds → ttlSeconds ≤ 2592000 →
      ttlSeconds * 1000000000 % 2 ^ 64 = ttlSeconds * 1000000000 := fun positive most =>
    Int.emod_eq_of_lt (by omega) (by omega)
  have nonneg : 0 ≤ ttlSeconds * 1000000000 % 2 ^ 64 := Int.emod_nonneg _ (by decide)
  rw [linkTTL_eq]
  unfold lifetimeSeconds ProductRight maxTTL
  generalize ttlSeconds * 1000000000 % 2 ^ 64 = residue at *
  rcases Int.lt_or_le 0 ttlSeconds with positive | negative
  · have later : ¬ttlSeconds ≤ 0 := by omega
    rw [if_pos positive, if_neg later]
    split <;> omega
  · have before : ¬0 < ttlSeconds := by omega
    rw [if_neg before, if_pos negative]
    split <;> omega

end Lifetimes

section Requests

variable {server : Server} {situation : Situation} {userID : Nat} {body : ProtectedLinkCreateBody}

/-- A request is accepted, and the link is created with this lifetime, in nanoseconds. -/
def LinkCreated (server : Server) (situation : Situation) (userID : Nat) (body : ProtectedLinkCreateBody)
    (lifetime : Int) : Prop :=
  ∃ input clean cipher token link, linkInput server situation userID body = .ok (input, clean, cipher) ∧
    situation.token = .ok token ∧ create input token situation.clock situation.now = .ok link ∧
    input.ttl = lifetime ∧ link.expiresAt = situation.clock + lifetime / 1000

def LinkAccepted (server : Server) (situation : Situation) (userID : Nat)
    (body : ProtectedLinkCreateBody) : Prop :=
  ∃ accepted, (routeProtectedLinksAuthored server situation userID (some body)).1 = .ok accepted

/-- A request is accepted if and only if it asks for thirty days at most, and then the link
is created with the lifetime that it asks for. -/
def LifetimeRight (server : Server) (situation : Situation) (userID : Nat)
    (body : ProtectedLinkCreateBody) : Prop :=
  (LinkAccepted server situation userID body ↔ body.ttlSeconds ≤ 2592000) ∧
    (LinkAccepted server situation userID body →
      LinkCreated server situation userID body (lifetimeSeconds body.ttlSeconds * 1000000000))

theorem linkInput_ttl {input : CreateInput} {clean : List GoString} {cipher : GoString}
    (accepted : linkInput server situation userID body = .ok (input, clean, cipher)) (ttlSeconds : Int) :
    linkInput server situation userID { body with ttlSeconds } =
      if linkTTL ttlSeconds > maxTTL then
        .error (.status 400 (ascii "ttl_seconds may not exceed 30 days"))
      else .ok ({ input with ttl := linkTTL ttlSeconds }, clean, cipher) := by
  unfold linkInput at accepted ⊢
  dsimp only at accepted ⊢
  split at accepted
  · cases accepted
  next kdf =>
  rw [if_neg kdf]
  split at accepted
  · cases accepted
  next salt decodedSalt =>
  split at accepted
  · cases accepted
  next longSalt =>
  rw [if_neg longSalt]
  split at accepted
  · cases accepted
  next wrapped decodedKey =>
  split at accepted
  · cases accepted
  next longKey =>
  rw [if_neg longKey]
  split at accepted
  · cases accepted
  next text decodedText =>
  split at accepted
  · cases accepted
  next longText =>
  rw [if_neg longText]
  generalize (if body.kdfParamsJSON = [] then ascii "\x7b\x7d" else body.kdfParamsJSON) = params at accepted ⊢
  split at accepted
  · cases accepted
  next valid =>
  rw [if_neg valid]
  split at accepted
  · cases accepted
  split at accepted
  · cases accepted
  next views =>
  rw [if_neg views]
  split at accepted
  · cases accepted
  next addresses cleaned =>
  split at accepted
  · cases accepted
  next token drawn =>
  cases accepted
  rfl

theorem create_ttl {input : CreateInput} {token : GoString} {clock now : Time} {link : Row}
    (created : create input token clock now = .ok link) {ttl : Int} (positive : 0 < ttl)
    (allowed : ttl ≤ maxTTL) :
    create { input with ttl } token clock now = .ok { link with expiresAt := clock + ttl / 1000 } := by
  unfold create at created ⊢
  dsimp only
  split at created
  · cases created
  next owned =>
  split at created
  · cases created
  next keyed =>
  split at created
  · cases created
  split at created
  · cases created
  next views =>
  cases created
  rw [if_neg owned, if_neg keyed, if_neg (by omega), if_neg views]

theorem linkAccepted_iff : LinkAccepted server situation userID body ↔
    ∃ input clean cipher token link, linkInput server situation userID body = .ok (input, clean, cipher) ∧
      situation.blobPut input.blobRef = none ∧ situation.createLink = none ∧
      situation.token = .ok token ∧ create input token situation.clock situation.now = .ok link := by
  constructor
  · rintro ⟨accepted, answered⟩
    unfold routeProtectedLinksAuthored at answered
    dsimp only at answered
    split at answered
    · cases answered
    next input clean cipher passed =>
    split at answered
    · cases answered
    next stored =>
    split at answered
    · cases answered
    next link created =>
    split at created
    · cases created
    · cases created
    next token granted drawn =>
    exact ⟨input, clean, cipher, token, link, passed, stored, granted, drawn, created⟩
  · rintro ⟨input, clean, cipher, token, link, passed, stored, granted, drawn, created⟩
    unfold LinkAccepted routeProtectedLinksAuthored
    dsimp only
    rw [passed]
    dsimp only
    rw [stored]
    dsimp only
    rw [granted, drawn]
    dsimp only
    rw [created]
    dsimp only
    split
    · exact ⟨_, rfl⟩
    · exact ⟨_, rfl⟩

theorem linkTTL_pos (ttlSeconds : Int) : 0 < linkTTL ttlSeconds := by
  unfold linkTTL
  dsimp only
  split <;> omega

theorem linkAccepted_ttl (fine : LinkAccepted server situation userID { body with ttlSeconds := 0 }) :
    (LinkAccepted server situation userID body ↔ linkTTL body.ttlSeconds ≤ maxTTL) ∧
      (linkTTL body.ttlSeconds ≤ maxTTL → ∀ lifetime, LinkCreated server situation userID body lifetime ↔
        linkTTL body.ttlSeconds = lifetime) := by
  obtain ⟨input, clean, cipher, token, link, passed, stored, granted, drawn, created⟩ :=
    linkAccepted_iff.mp fine
  have checked : linkInput server situation userID body = _ := linkInput_ttl passed body.ttlSeconds
  refine ⟨⟨fun accepted => ?_, fun allowed => ?_⟩, fun allowed lifetime => ?_⟩
  · by_contra long
    obtain ⟨input, clean, cipher, -, -, given, -⟩ := linkAccepted_iff.mp accepted
    rw [if_pos (Int.not_le.mp long)] at checked
    cases checked.symm.trans given
  · rw [if_neg (Int.not_lt.mpr allowed)] at checked
    exact linkAccepted_iff.mpr ⟨_, clean, cipher, token, _, checked, stored, granted, drawn,
      create_ttl created (linkTTL_pos _) allowed⟩
  · rw [if_neg (Int.not_lt.mpr allowed)] at checked
    constructor
    · rintro ⟨other, clean, cipher, -, -, given, -, -, same, -⟩
      cases checked.symm.trans given
      exact same
    · rintro rfl
      exact ⟨_, clean, cipher, token, _, checked, drawn, create_ttl created (linkTTL_pos _) allowed,
        rfl, rfl⟩

/-- If all else is right about a request, it is treated as it should be exactly if the product
in 64 bits is where the exact one would be. -/
theorem lifetime_right_iff (fine : LinkAccepted server situation userID { body with ttlSeconds := 0 }) :
    LifetimeRight server situation userID body ↔ ProductRight body.ttlSeconds := by
  obtain ⟨accepted, lifetime⟩ := linkAccepted_ttl fine
  rw [← linkTTL_right_iff]
  unfold LifetimeRight
  rw [accepted]
  constructor
  · rintro ⟨bounded, created⟩
    exact ⟨bounded, fun allowed => (lifetime allowed _).mp (created allowed)⟩
  · rintro ⟨bounded, same⟩
    exact ⟨bounded, fun allowed => (lifetime allowed _).mpr (same allowed)⟩

end Requests

def lifetimeBody (ttlSeconds : Int) : ProtectedLinkCreateBody where
  subjectHint := []
  recipientEmails := []
  notifyRecipients := false
  notifyFromAddr := []
  ttlSeconds
  maxViews := 0
  kdf := ascii "argon2id"
  kdfSaltB64 := ascii "AAAAAAAAAAA="
  kdfParamsJSON := []
  wrappedMsgKeyB64 := ascii "AAAAAAAAAAAAAAAAAAAAAAAAAAAAAAAAAAAAAAAAAAA="
  bodyCiphertextB64 := ascii "AAAAAAAAAAAAAAAAAAAAAA=="

theorem lifetimeBody_accepted : LinkAccepted forgedServer forgedSituation 1 (lifetimeBody 0) := by
  refine ⟨⟨none⟩, ?_⟩
  unfold lifetimeBody
  repeat rw [ascii_ofList]
  decide

theorem lifetime_right_day : LifetimeRight forgedServer forgedSituation 1 (lifetimeBody 86400) :=
  (@lifetime_right_iff _ _ _ (lifetimeBody 86400) lifetimeBody_accepted).mpr
    (productRight_of_fits (by decide) (by decide))

/-- More than five hundred years are accepted, and taken for less than a second. -/
theorem lifetime_wraps :
    LinkCreated forgedServer forgedSituation 1 (lifetimeBody 18446744074) 290448384 ∧
      ¬LifetimeRight forgedServer forgedSituation 1 (lifetimeBody 18446744074) := by
  obtain ⟨accepted, lifetime⟩ :=
    @linkAccepted_ttl _ _ _ (lifetimeBody 18446744074) lifetimeBody_accepted
  have wrapped : linkTTL 18446744074 = 290448384 := by decide
  have allowed : linkTTL 18446744074 ≤ maxTTL := by decide
  refine ⟨(lifetime allowed _).mpr wrapped, fun right => ?_⟩
  have most := right.1.mp (accepted.mpr allowed)
  revert most
  decide

end ElvishMail.Httpserver
