import ElvishMail.Go.Runes
import ElvishMail.Httpserver.Outgoing
import ElvishMail.Mailworker.FromField

/-!
# Who mail is sent as

The worker sends a row of the outbox from the address of its sender copy or, where
there is none, from the one it reads off the payload. Only the first of these was
checked when the request came in: the sender is one of the user's own as long as
the request brings a sender copy, or the `From` field it supplies happens to name
one.
-/

namespace ElvishMail.Httpserver

open Go Smtp Mailmeta Maillinks Mailworker

/-- The addresses a user may send from: his active identities and the platform's own. -/
def MaySend (server : Server) (userID : Nat) (address : GoString) : Prop :=
  (∃ row ∈ server.identities, row.userID = userID ∧ row.email = address ∧ row.isActive = true) ∨
    address = toLower server.lib (noReply server)

/-- A worker that reads what a request stored, with the same relay key. -/
structure Reads (server : Server) (writes : List BlobWrite) (row : OutboxRow) (material : Material) :
    Prop where
  blob : ∀ content, .put row.payloadBlobRef content ∈ writes →
    ∀ found, material.blob row.payloadBlobRef = .ok found → found = content
  relayKey : material.relayKey = server.relayKey.map RelayKey.unwrap

/-- Whatever a worker makes of the row, it sends as an address that the user may use. -/
def SafeSender (server : Server) (userID : Nat) (row : OutboxRow) (writes : List BlobWrite) : Prop :=
  ∀ material fromAddr payload, Reads server writes row material →
    prepare server.lib material row = .ready fromAddr payload → MaySend server userID fromAddr

section Lines

variable (lib : Library)

/-- The mailbox that a `From` line names, as `extractFromHeader` reads its value. -/
def headerMailbox (value : GoString) : GoString :=
  let value := trimSpace value
  match indexByte value 0x3C with
  | none => toLower lib value
  | some lt =>
    match indexByte (value.drop lt) 0x3E with
    | none => toLower lib value
    | some gt =>
      if 0 < gt then toLower lib (trimSpace ((value.take (lt + gt)).drop (lt + 1)))
      else toLower lib value

theorem headerMailbox_iff (value address : GoString) :
    headerMailbox lib value = address ↔ Names lib value address := by
  rw [← names_iff]
  rfl

def firstLine (text : GoString) : GoString :=
  text.take ((index text (ascii "\r\n")).getD text.length)

theorem index_line (text rest : GoString) :
    index (text ++ (0x0D :: 0x0A :: rest)) [0x0D, 0x0A] =
      some ((index text [0x0D, 0x0A]).getD text.length) := by
  induction text with
  | nil =>
    rw [List.nil_append, index_cons, if_pos (by simp [List.isPrefixOf])]
    rfl
  | cons byte text ih =>
    have same : List.isPrefixOf [0x0D, 0x0A] (byte :: (text ++ (0x0D :: 0x0A :: rest))) =
        List.isPrefixOf [0x0D, 0x0A] (byte :: text) := by
      cases text with
      | nil => simp [List.isPrefixOf]
      | cons next text => simp [List.isPrefixOf]
    rw [List.cons_append, index_cons, index_cons, same, ih]
    split
    · rfl
    · cases index text [0x0D, 0x0A] with
      | none => simp
      | some place => simp

theorem firstLine_length (text : GoString) :
    (firstLine text).length = (index text (ascii "\r\n")).getD text.length := by
  rw [firstLine, List.length_take, Nat.min_eq_left]
  cases found : index text (ascii "\r\n") with
  | none => exact le_refl _
  | some place =>
    have bound := (List.findIdx?_eq_some_iff_getElem.mp found).1
    rw [List.length_tails] at bound
    exact Nat.le_of_lt_succ bound

theorem trimSpace_space (text : GoString) : trimSpace (0x20 :: text) = trimSpace text := by
  rw [trimSpace, runes_ascii (by decide), List.dropWhile_cons_of_pos (by decide)]
  rfl

theorem lowerByte_ne_cr {byte : UInt8} (other : byte ≠ 0x0D) : lowerByte byte ≠ 0x0D := by
  unfold lowerByte
  split
  next letter =>
    intro same
    have value := congrArg UInt8.toNat same
    rw [UInt8.toNat_add] at value
    simp at value
    omega
  next => exact other

theorem isPlainText_iff {text : GoString} :
    isPlainText text = true ↔ (∀ byte ∈ text, byte.toNat < 0x80) ∧ 0x0D ∉ text := by
  simp only [isPlainText, List.all_eq_true, Bool.and_eq_true, decide_eq_true_eq, bne_iff_ne]
  constructor
  · intro every
    exact ⟨fun byte member => (every byte member).1, fun member => (every _ member).2 rfl⟩
  · rintro ⟨small, absent⟩ byte member
    exact ⟨small byte member, fun same => absent (same ▸ member)⟩

theorem indexHeader_third {first second : GoString} (tail : GoString)
    (plain : isPlainText first = true) (plainSecond : isPlainText second = true) :
    indexHeader lib
        (first ++ ([0x0D, 0x0A, 0x44] ++ second ++ [0x0D, 0x0A]) ++ (ascii "From:" ++ tail))
        (ascii "From:") =
      some (first.length + (second.length + 5)) := by
  obtain ⟨small, absent⟩ := isPlainText_iff.mp plain
  obtain ⟨smallSecond, absentSecond⟩ := isPlainText_iff.mp plainSecond
  have target : toLower lib (ascii "From:") = ascii "from:" := by
    have lowered := toLower_ascii lib (ascii "From:") [] (small_of_all (by decide))
    rw [List.append_nil, toLower_nil, List.append_nil] at lowered
    exact lowered.trans (by decide)
  have lowered : toLower lib
      (first ++ ([0x0D, 0x0A, 0x44] ++ second ++ [0x0D, 0x0A]) ++ (ascii "From:" ++ tail)) =
      first.map lowerByte ++ (0x0D :: ((0x0A :: 0x64 :: second.map lowerByte) ++
        (0x0D :: 0x0A :: (ascii "from:" ++ toLower lib tail)))) := by
    rw [← List.append_assoc _ (ascii "From:") tail, toLower_ascii]
    · simp [lowerByte, ascii]
    · simp only [List.mem_append]
      rintro byte ((member | ((member | member) | member)) | member)
      · exact small byte member
      · exact small_of_all (by decide) byte member
      · exact smallSecond byte member
      · exact small_of_all (by decide) byte member
      · exact small_of_all (by decide) byte member
  have noneFirst : (0x0D : UInt8) ∉ first.map lowerByte := by
    intro member
    obtain ⟨byte, within, same⟩ := List.mem_map.mp member
    exact lowerByte_ne_cr (fun carriage => absent (carriage ▸ within)) same
  have noneSecond : (0x0D : UInt8) ∉ 0x0A :: 0x64 :: second.map lowerByte := by
    simp only [List.mem_cons, not_or]
    refine ⟨by decide, by decide, ?_⟩
    intro member
    obtain ⟨byte, within, same⟩ := List.mem_map.mp member
    exact lowerByte_ne_cr (fun carriage => absentSecond (carriage ▸ within)) same
  have found : index (first.map lowerByte ++ (0x0D :: ((0x0A :: 0x64 :: second.map lowerByte) ++
      (0x0D :: 0x0A :: (ascii "from:" ++ toLower lib tail))))) (0x0D :: 0x0A :: ascii "from:") =
      some (first.length + (second.length + 3)) := by
    rw [index_skip noneFirst, index_cons, if_neg (by simp [List.isPrefixOf, ascii]),
      index_skip noneSecond, index_cons, if_pos (by simp [List.isPrefixOf, ascii])]
    simp
    omega
  rw [indexHeader, lowered, target]
  have pattern : ascii "\r\n" ++ ascii "from:" = 0x0D :: 0x0A :: ascii "from:" := by decide
  simp only [pattern, found]
  rfl

theorem extractFromHeader_third {first second : GoString} (value rest : GoString)
    (plain : isPlainText first = true) (plainSecond : isPlainText second = true) :
    extractFromHeader lib
        (first ++ ([0x0D, 0x0A, 0x44] ++ second ++ [0x0D, 0x0A]) ++
          (ascii "From:" ++ (0x20 :: (value ++ (0x0D :: 0x0A :: rest))))) =
      some (headerMailbox lib (firstLine value)) := by
  have found := indexHeader_third lib (0x20 :: (value ++ (0x0D :: 0x0A :: rest))) plain plainSecond
  generalize before : first ++ ([0x0D, 0x0A, 0x44] ++ second ++ [0x0D, 0x0A]) = lines at found ⊢
  have place : first.length + (second.length + 5) = lines.length := by
    rw [← before]
    simp
  rw [place] at found
  have stop : index (ascii "From:" ++ (0x20 :: (value ++ (0x0D :: 0x0A :: rest)))) (ascii "\r\n") =
      some ((firstLine value).length + 6) := by
    have line : ascii "From:" ++ (0x20 :: (value ++ (0x0D :: 0x0A :: rest))) =
        ascii "From: " ++ (value ++ (0x0D :: 0x0A :: rest)) := rfl
    have pattern : ascii "\r\n" = [0x0D, 0x0A] := by decide
    rw [line, firstLine_length, pattern, index_skip (by decide), index_line]
    rfl
  have cut : slice (lines ++ (ascii "From:" ++ (0x20 :: (value ++ (0x0D :: 0x0A :: rest)))))
      (lines.length + 5) (lines.length + ((firstLine value).length + 6)) =
      some (0x20 :: firstLine value) := by
    have whole : lines ++ (ascii "From:" ++ (0x20 :: (value ++ (0x0D :: 0x0A :: rest)))) =
        (lines ++ ascii "From:") ++ (0x20 :: firstLine value) ++
          (value.drop ((index value (ascii "\r\n")).getD value.length) ++ (0x0D :: 0x0A :: rest)) := by
      simp only [firstLine, List.append_assoc, List.cons_append]
      rw [← List.append_assoc (value.take _), List.take_append_drop]
    rw [whole, slice, if_pos, List.take_left', List.drop_left']
    · simp [ascii]
    · simp [ascii]
    · simp [ascii]
  rw [extractFromHeader, found]
  dsimp only
  rw [if_neg (by simp), List.drop_left' rfl, stop]
  dsimp only
  rw [cut]
  have spaced : headerMailbox lib (0x20 :: firstLine value) = headerMailbox lib (firstLine value) := by
    unfold headerMailbox
    rw [trimSpace_space]
  exact congrArg some spaced

end Lines

/-- What is assumed of `mail.ParseAddress`: a bare address of plain letters is returned
as it stands. -/
def ParsesPlain (lib : Library) : Prop :=
  ∀ text address, (toLower lib text).all isMailboxByte = true →
    lib.parseAddress text = some address → address = text

section Mailboxes

variable {lib : Library} {text : GoString}

theorem isMailboxByte_solid {byte : UInt8} (mailbox : isMailboxByte byte = true) :
    byte.toNat < 0x80 ∧ isSpace byte.toNat = false ∧ byte ≠ 0x0D ∧ byte ≠ 0x3C ∧
      isMailboxByte (lowerByte byte) = true := by
  have every : ∀ value : Nat, value < 256 → isMailboxByte value.toUInt8 = true →
      value.toUInt8.toNat < 0x80 ∧ isSpace value.toUInt8.toNat = false ∧ value.toUInt8 ≠ 0x0D ∧
        value.toUInt8 ≠ 0x3C ∧ isMailboxByte (lowerByte value.toUInt8) = true := by
    decide +kernel
  have known := every byte.toNat byte.toNat_lt
  simpa [mailbox] using known

theorem trimSpace_mailbox (mailbox : text.all isMailboxByte = true) : trimSpace text = text := by
  refine trimSpace_solid fun byte member => ?_
  have solid := isMailboxByte_solid (List.all_eq_true.mp mailbox byte member)
  exact ⟨solid.1, solid.2.1⟩

theorem firstLine_mailbox (mailbox : text.all isMailboxByte = true) : firstLine text = text := by
  have absent : (0x0D : UInt8) ∉ text := by
    intro member
    exact (isMailboxByte_solid (List.all_eq_true.mp mailbox _ member)).2.2.1 rfl
  have none : index text (ascii "\r\n") = none := by
    have skipped := index_skip absent [] [0x0A]
    rw [List.append_nil] at skipped
    exact skipped
  rw [firstLine, none]
  exact List.take_length

theorem headerMailbox_mailbox (mailbox : text.all isMailboxByte = true) :
    headerMailbox lib (firstLine text) = toLower lib text := by
  have none : indexByte text 0x3C = none := by
    rw [indexByte, List.findIdx?_eq_none_iff]
    intro byte member
    have known := isMailboxByte_solid (List.all_eq_true.mp mailbox _ member)
    simpa using known.2.2.2.1
  rw [firstLine_mailbox mailbox, headerMailbox, trimSpace_mailbox mailbox]
  simp only [none]

theorem toLower_mailbox (mailbox : text.all isMailboxByte = true) :
    (toLower lib text).all isMailboxByte = true := by
  have small : ∀ byte ∈ text, byte.toNat < 0x80 := by
    intro byte member
    exact (isMailboxByte_solid (List.all_eq_true.mp mailbox _ member)).1
  have lowered := toLower_ascii lib text [] small
  rw [List.append_nil, toLower_nil, List.append_nil] at lowered
  rw [lowered, List.all_eq_true]
  intro byte member
  obtain ⟨source, within, rfl⟩ := List.mem_map.mp member
  exact (isMailboxByte_solid (List.all_eq_true.mp mailbox _ within)).2.2.2.2

theorem isPlainText_mailbox (mailbox : text.all isMailboxByte = true) : isPlainText text = true := by
  rw [isPlainText, List.all_eq_true]
  intro byte member
  have known := isMailboxByte_solid (List.all_eq_true.mp mailbox _ member)
  simp [known.1, known.2.2.1]

end Mailboxes

section Notices

variable (server : Server) (situation : Situation)

theorem noReply_mailbox : (noReply server).all isMailboxByte = true := by
  unfold noReply
  split
  · rw [List.all_append, server.mailDomain_plain]
    decide
  · decide

theorem messageDomain_noReply (parses : ParsesPlain server.lib) :
    isPlainText (messageDomain server (noReply server)) = true := by
  have mailbox := noReply_mailbox server
  unfold messageDomain
  split
  · decide
  next address parsed =>
    have same : address = noReply server := parses _ _ (toLower_mailbox mailbox) parsed
    split
    · decide
    next place _ =>
      apply isPlainText_mailbox
      rw [List.all_eq_true] at mailbox ⊢
      intro byte member
      apply mailbox
      rw [← same]
      exact List.mem_of_mem_drop member

theorem extractFromHeader_notice {fromAddr : GoString} (toAddrs : List GoString)
    (subject bodyText : GoString) (plain : isPlainText (messageDomain server fromAddr) = true) :
    extractFromHeader server.lib
        (buildRFC5322 server situation fromAddr toAddrs subject bodyText) =
      some (headerMailbox server.lib (firstLine fromAddr)) := by
  have identifier : isPlainText
      (ascii "Message-ID: <" ++ messageID server situation fromAddr ++ ascii ">") = true := by
    have stamp := situation.messageStamp_plain
    unfold isPlainText at stamp plain ⊢
    rw [messageID, List.all_append, List.all_append, List.all_append, List.all_append, stamp, plain]
    decide
  have date : isPlainText (ascii "ate: " ++ situation.date) = true := by
    have date := situation.date_plain
    unfold isPlainText at date ⊢
    rw [List.all_append, date]
    decide
  rw [← extractFromHeader_third server.lib fromAddr
    (ascii "To: " ++ join toAddrs (ascii ", ") ++ ascii "\r\n" ++
      (if subject = [] then [] else ascii "Subject: " ++ subject ++ ascii "\r\n") ++
      ascii "MIME-Version: 1.0\r\n" ++
      ascii "X-Elvish-Send-Mode: plaintext-relay\r\n" ++
      ascii "Content-Type: text/plain; charset=utf-8\r\n" ++
      ascii "Content-Transfer-Encoding: 8bit\r\n" ++
      ascii "\r\n" ++ writeBodyLines bodyText) identifier date]
  congr 1
  unfold buildRFC5322
  have close : ascii ">\r\n" = ascii ">" ++ [0x0D, 0x0A] := by decide
  have dated : ascii "Date: " = 0x44 :: ascii "ate: " := by decide
  have stop : ascii "\r\n" = [0x0D, 0x0A] := by decide
  have sender : ascii "From: " = ascii "From:" ++ [0x20] := by decide
  rw [close, dated, sender]
  generalize ascii "To: " ++ join toAddrs (ascii ", ") ++ ascii "\r\n" ++
      (if subject = [] then [] else ascii "Subject: " ++ subject ++ ascii "\r\n") ++
      ascii "MIME-Version: 1.0\r\n" ++
      ascii "X-Elvish-Send-Mode: plaintext-relay\r\n" ++
      ascii "Content-Type: text/plain; charset=utf-8\r\n" ++
      ascii "Content-Transfer-Encoding: 8bit\r\n" ++
      ascii "\r\n" ++ writeBodyLines bodyText = rest
  rw [stop]
  simp only [List.append_assoc, List.cons_append, List.nil_append]

end Notices

section Accepted

variable {server : Server} {situation : Situation} {userID : Nat} {row : OutboxRow}
  {writes : List BlobWrite}

theorem maySend_of_found {email : GoString} {identity : Identity}
    (found : identityForUserEmail server.lib server.identities userID email = some identity) :
    MaySend server userID (toLower server.lib (trimSpace email)) ∧
      (toLower server.lib (trimSpace email)).all isMailboxByte = true := by
  unfold identityForUserEmail at found
  dsimp only at found
  split at found
  · cases found
  · have member := List.mem_of_find?_eq_some found
    have matched := List.find?_some found
    simp only [Bool.and_eq_true, beq_iff_eq] at matched
    obtain ⟨⟨owner, address⟩, active⟩ := matched
    exact ⟨.inl ⟨identity, member, owner, address, active⟩, address ▸ identity.plain⟩

theorem storePayload_accepted {body : OutboxPostBody} {cipher : GoString}
    {sentCopy : Option OutboxSentCopy}
    (accepted : storePayload situation userID body cipher sentCopy = (.ok ⟨some row⟩, writes)) :
    row = insertOutboxMeta situation.now situation.rowID userID .pgp
        (outboxKey situation.userText situation.outboxID) cipher.length
        (join body.recipientSummary (ascii " ")) [] 0 sentCopy ∧
      writes = [.put (outboxKey situation.userText situation.outboxID) cipher] := by
  unfold storePayload at accepted
  dsimp only at accepted
  split at accepted
  · cases accepted
  split at accepted
  · cases accepted
  cases accepted
  exact ⟨rfl, rfl⟩

/-- A sender copy that was checked: its address was found, and its fields are decoded. -/
structure Copied (server : Server) (situation : Situation) (userID : Nat) (body : OutboxPostBody)
    (copy : OutboxSentCopy) (content : GoString) : Prop where
  fromAddr : copy.fromAddr = body.fromAddr
  found : ∃ identity,
    identityForUserEmail server.lib server.identities userID body.fromAddr = some identity
  ref : copy.bodyBlobRef = outboxKey situation.userText (situation.sentCopyID ++ ascii "-sentcopy")
  header : base64Decode body.senderHeaderCiphertextB64 = some copy.headerCiphertext
  content : base64Decode body.senderBodyCiphertextB64 = some content

theorem sentCopyOf_ok {body : OutboxPostBody} {copy : OutboxSentCopy} {content : GoString}
    (checked : sentCopyOf server situation userID body = .ok (copy, content)) :
    Copied server situation userID body copy content := by
  unfold sentCopyOf at checked
  split at checked
  · cases checked
  split at checked
  · cases checked
  split at checked
  · cases checked
  split at checked
  · cases checked
  next identity found =>
    split at checked
    · cases checked
    next header =>
    split at checked
    · cases checked
    next content =>
    cases checked
    exact ⟨rfl, ⟨identity, found⟩, rfl, header, content⟩

theorem apiMailOutboxPost_accepted {body : OutboxPostBody}
    (accepted : apiMailOutboxPost server situation userID (some body) = (.ok ⟨some row⟩, writes)) :
    ∃ cipher sentCopy, base64Decode body.payloadCiphertextB64 = some cipher ∧
      row = insertOutboxMeta situation.now situation.rowID userID .pgp
        (outboxKey situation.userText situation.outboxID) cipher.length
        (join body.recipientSummary (ascii " ")) [] 0 sentCopy ∧
      (body.hasSentCopy = false ∧ sentCopy = none ∧
          writes = [.put (outboxKey situation.userText situation.outboxID) cipher] ∨
        body.hasSentCopy = true ∧ ∃ copy content, sentCopy = some copy ∧
          Copied server situation userID body copy content ∧
          writes = [.put copy.bodyBlobRef content,
            .put (outboxKey situation.userText situation.outboxID) cipher]) := by
  unfold apiMailOutboxPost at accepted
  dsimp only at accepted
  split at accepted
  · cases accepted
  split at accepted
  · cases accepted
  next cipher decoded =>
    split at accepted
    next bare =>
      obtain ⟨made, stored⟩ := storePayload_accepted accepted
      refine ⟨cipher, none, decoded, made, .inl ⟨?_, rfl, stored⟩⟩
      simpa using bare
    next copied =>
      split at accepted
      · cases accepted
      next copy content checked =>
        split at accepted
        · cases accepted
        · have replied : storePayload situation userID body cipher (some copy) =
              (.ok ⟨some row⟩, (storePayload situation userID body cipher (some copy)).2) :=
            Prod.ext (Prod.ext_iff.mp accepted).1 rfl
          obtain ⟨made, stored⟩ := storePayload_accepted replied
          refine ⟨cipher, some copy, decoded, made,
            .inr ⟨?_, copy, content, rfl, sentCopyOf_ok checked, ?_⟩⟩
          · simpa using copied
          · have written := (Prod.ext_iff.mp accepted).2
            dsimp only at written
            rw [← written, stored]

theorem linkInput_blobRef {body : ProtectedLinkCreateBody} {input : CreateInput}
    {clean : List GoString} {cipher : GoString}
    (checked : linkInput server situation userID body = .ok (input, clean, cipher)) :
    ∃ token, input.blobRef = protectedLinkKey token := by
  unfold linkInput at checked
  dsimp only at checked
  generalize (if body.kdfParamsJSON = [] then ascii "\x7b\x7d" else body.kdfParamsJSON) = params
    at checked
  split at checked
  · cases checked
  split at checked
  · cases checked
  split at checked
  · cases checked
  split at checked
  · cases checked
  split at checked
  · cases checked
  split at checked
  · cases checked
  split at checked
  · cases checked
  split at checked
  · cases checked
  split at checked
  · cases checked
  split at checked
  · cases checked
  split at checked
  · cases checked
  split at checked
  · cases checked
  next token _ =>
    cases checked
    exact ⟨token, rfl⟩

theorem submitPlaintext_accepted {body : OutboxPlainBody} {source : GoString}
    (sent : submitPlaintextOutboxWithContext server situation userID body source =
      (.ok (some row), writes)) :
    ∃ relayKey cipher toAddrs here away,
      cleanAddresses server body.toAddrs = .ok toAddrs ∧
      partitionLocalRecipients server toAddrs = .ok (here, away) ∧
      server.relayKey = some relayKey ∧
      relayKey.wrap (buildRFC5322 server situation (trimSpace body.fromAddr) toAddrs
        (trimSpace body.subject) body.bodyText) = .ok cipher ∧
      row = insertOutboxMeta situation.now situation.rowID userID .plaintextRelay
        (outboxKey situation.userText situation.outboxID) cipher.length (join away (ascii " ")) source
          0 none ∧
      writes = [.put (outboxKey situation.userText situation.outboxID) cipher] := by
  unfold submitPlaintextOutboxWithContext at sent
  dsimp only at sent
  split at sent
  · cases sent
  split at sent
  · cases sent
  split at sent
  · cases sent
  next clean cleaned =>
    split at sent
    · cases sent
    split at sent
    · cases sent
    split at sent
    · cases sent
    next here away parted =>
      split at sent
      · cases sent
      split at sent
      · cases sent
      split at sent
      · cases sent
      · cases sent
      next relayKey _ keyed =>
        split at sent
        · cases sent
        next cipher wrapped =>
          split at sent
          · cases sent
          split at sent
          · cases sent
          cases sent
          exact ⟨relayKey, cipher, clean, here, away, cleaned, parted, keyed, wrapped, rfl, rfl⟩

theorem routeProtectedLinksAuthored_accepted {body : ProtectedLinkCreateBody}
    (accepted : routeProtectedLinksAuthored server situation userID (some body) =
      (.ok ⟨some row⟩, writes)) :
    ∃ relayKey cipher toAddrs subject bodyText summary token link,
      server.relayKey = some relayKey ∧
      relayKey.wrap (buildRFC5322 server situation (trimSpace (noticeFrom server body)) toAddrs
        subject bodyText) = .ok cipher ∧
      row = insertOutboxMeta situation.now situation.rowID userID .plaintextRelay
        (outboxKey situation.userText situation.outboxID) cipher.length summary
        (ascii "protected_link_notice") 0 none ∧
      writes = [.put (protectedLinkKey token) link,
        .put (outboxKey situation.userText situation.outboxID) cipher] := by
  unfold routeProtectedLinksAuthored at accepted
  dsimp only at accepted
  split at accepted
  · cases accepted
  next input clean link checked =>
    obtain ⟨token, named⟩ := linkInput_blobRef checked
    split at accepted
    · cases accepted
    split at accepted
    · cases accepted
    split at accepted
    · generalize outcome : submitPlaintextOutboxWithContext server situation userID _ _ = submitted
        at accepted
      obtain ⟨sent, stored⟩ := submitted
      obtain ⟨replied, written⟩ := Prod.ext_iff.mp accepted
      dsimp only at replied written
      cases sent with
      | error err => cases replied
      | ok made =>
        cases replied
        obtain ⟨relayKey, cipher, toAddrs, _, _, -, -, keyed, wrapped, same, put⟩ :=
          submitPlaintext_accepted outcome
        refine ⟨relayKey, cipher, toAddrs, _, _, _, token, link, keyed, wrapped, same, ?_⟩
        rw [← written, put, named]
    · cases accepted

end Accepted

section Worker

variable {lib : Library} {material : Material} {row : OutboxRow} {fromAddr payload : GoString}

theorem prepare_ready (ready : prepare lib material row = .ready fromAddr payload) :
    (recipients row).length ≠ 0 ∧ ∃ content opened plain, material.blob row.payloadBlobRef = .ok content ∧
      openPayload lib material row content = .ready opened plain ∧
      (if opened = [] then extractFromHeader lib plain else some opened) = some fromAddr ∧
      fromAddr ≠ [] := by
  unfold prepare at ready
  split at ready
  · cases ready
  next content read =>
    split at ready
    · cases ready
    next addressed =>
      split at ready
      · cases ready
      · cases ready
      next opened plain unfolded =>
        split at ready
        · cases ready
        next sender found =>
          split at ready
          · cases ready
          next given =>
            split at ready
            · cases ready
            · cases ready
              exact ⟨addressed, content, opened, plain, read, unfolded, found, given⟩

def bareWorker (content : GoString) (relayKey : Option (GoString → Except GoString GoString)) :
    Material where
  blob := fun _ => .ok content
  relayKey
  dkim :=
    { signer := none
      selector := []
      domain := []
      domainsDir := []
      getDomainDKIMByName := fun _ => none
      cachedDomainSigner := fun _ _ => none }
  armored := fun _ => false
  boundaryUUID := []
  messageUUID := []
  date := []
  stamp := []
  ingestSentCopy := fun _ _ => none

theorem prepare_bareWorker {content : GoString}
    {relayKey : Option (GoString → Except GoString GoString)} (addressed : (recipients row).length ≠ 0)
    (opened : openPayload lib (bareWorker content relayKey) row content = .ready fromAddr payload)
    (given : fromAddr ≠ []) :
    prepare lib (bareWorker content relayKey) row = .ready fromAddr payload := by
  have unsigned : signPayload lib (bareWorker content relayKey).dkim fromAddr payload = .ok payload := by
    have unkeyed : resolveDKIM lib (bareWorker content relayKey).dkim fromAddr = (none, [], []) := by
      unfold resolveDKIM bareWorker
      dsimp only
      split
      · rfl
      · rw [if_pos (by decide)]
        rfl
    rw [signPayload, unkeyed]
  have read : (bareWorker content relayKey).blob row.payloadBlobRef = .ok content := rfl
  rw [prepare, read]
  dsimp only
  rw [if_neg addressed, opened]
  dsimp only
  rw [if_neg given]
  dsimp only
  rw [if_neg given, unsigned]

end Worker

/-- A sender that is no danger: none at all, or one that the user may use. -/
def Harmless (server : Server) (userID : Nat) (address : GoString) : Prop :=
  address = [] ∨ MaySend server userID address

/-- A payload that is no message, or one whose `From` field names an address that the user may
use and stands where the worker looks for it. -/
def PayloadSafe (server : Server) (userID : Nat) (content : GoString) : Prop :=
  looksLikeRFC822Message server.lib content = true →
    ∃ place address, SenderField server.lib content place address ∧
      FieldFound server.lib content place ∧
      (∃ stop, index (content.drop place) (ascii "\r\n") = some stop ∧
        Names server.lib ((content.drop (place + 5)).take (stop - 5)) address) ∧
      MaySend server userID address

/-- A payload comes with a sender copy, or with a sender of the user's. -/
def OutboxSafe (server : Server) (userID : Nat) (body : OutboxPostBody) : Prop :=
  body.hasSentCopy = true ∨
    ∀ content, base64Decode body.payloadCiphertextB64 = some content →
      PayloadSafe server userID content

/-- A notice has no sender of its own, or names on its first line one that is no danger. -/
def NoticeSafe (server : Server) (userID : Nat) (body : ProtectedLinkCreateBody) : Prop :=
  trimSpace body.notifyFromAddr = [] ∨
    isPlainText (messageDomain server (trimSpace body.notifyFromAddr)) = true ∧
      ∃ address, Names server.lib (firstLine (trimSpace body.notifyFromAddr)) address ∧
        Harmless server userID address

section Safe

variable {server : Server} {situation : Situation} {userID : Nat} {row : OutboxRow}
  {writes : List BlobWrite} {material : Material}

/-- The worker reads the sender off a field that it finds. -/
theorem sender_read (tables : FromSteady server.lib) {content address : GoString} {place stop : Nat}
    (field : SenderField server.lib content place address)
    (known : FieldFound server.lib content place)
    (stops : index (content.drop place) (ascii "\r\n") = some stop)
    (names : Names server.lib ((content.drop (place + 5)).take (stop - 5)) address) :
    extractFromHeader server.lib content = some address := by
  have found := (field.found_iff tables).mpr known
  obtain ⟨inside, begins⟩ := field.begins
  obtain ⟨-, -, -, -, given⟩ := field
  exact (extractFromHeader_iff found inside begins given).mpr ⟨stop, stops, names⟩

theorem openPayload_copy (parses : ParsesPlain server.lib) {email : GoString} {identity : Identity}
    (found : identityForUserEmail server.lib server.identities userID email = some identity)
    (kind : row.kind = .pgp) (copied : row.sentCopyFromAddr = trimSpace email)
    {content opened plain : GoString}
    (unfolded : openPayload server.lib material row content = .ready opened plain) :
    opened ≠ [] ∧ MaySend server userID opened := by
  have named : normalizeMailbox server.lib row.sentCopyFromAddr =
      toLower server.lib (trimSpace email) := by
    rw [normalizeMailbox, copied, trimSpace_trimSpace]
    split
    next blank =>
      rw [blank]
      rfl
    next =>
      split
      next address parsed =>
        have same := parses _ _ (maySend_of_found found).2 parsed
        rw [same, trimSpace_trimSpace]
      next => rfl
  have given : toLower server.lib (trimSpace email) ≠ [] := by
    intro blank
    simp [identityForUserEmail, blank] at found
  have sender : opened = toLower server.lib (trimSpace email) := by
    unfold openPayload at unfolded
    rw [kind] at unfolded
    dsimp only at unfolded
    unfold preparePGPOutboundPayload at unfolded
    rw [named] at unfolded
    dsimp only at unfolded
    rw [if_neg given, if_neg given] at unfolded
    split at unfolded
    · cases unfolded
    · cases unfolded
    next message sender prepared =>
      cases unfolded
      split at prepared
      · simp only [Option.map_some, if_neg given, Option.some.injEq, Except.ok.injEq,
          Prod.mk.injEq] at prepared
        exact prepared.2.symm
      · split at prepared
        · cases prepared
        · cases prepared
          rfl
  rw [sender]
  exact ⟨given, (maySend_of_found found).1⟩

theorem openPayload_bare (kind : row.kind = .pgp) (bare : row.sentCopyFromAddr = [])
    {content opened plain : GoString} :
    openPayload server.lib material row content = .ready opened plain ↔
      looksLikeRFC822Message server.lib content = true ∧
        extractFromHeader server.lib content = some opened ∧ opened ≠ [] ∧ plain = content := by
  have none : normalizeMailbox server.lib row.sentCopyFromAddr = [] := by
    rw [bare]
    rfl
  unfold openPayload
  rw [kind]
  dsimp only
  rw [preparePGPOutboundPayload, none]
  rw [if_pos rfl, if_pos rfl]
  by_cases message : looksLikeRFC822Message server.lib content = true
  · rw [if_pos message]
    cases extractFromHeader server.lib content with
    | none => simp
    | some address =>
      rw [Option.map_some]
      by_cases blank : address = []
      · rw [if_pos blank]
        simp only [blank, reduceCtorEq, Option.some.injEq, false_iff, not_and]
        intro _ same given
        exact absurd same.symm given
      · rw [if_neg blank]
        simp only [Prepared.ready.injEq, message, Option.some.injEq, true_and]
        constructor
        · rintro ⟨rfl, rfl⟩
          exact ⟨rfl, blank, rfl⟩
        · rintro ⟨rfl, -, rfl⟩
          exact ⟨rfl, rfl⟩
  · rw [if_neg message]
    simp only [reduceCtorEq, message, false_and]

theorem openPayload_relay (kind : row.kind = .plaintextRelay) {relayKey : RelayKey}
    (keyed : material.relayKey = some relayKey.unwrap) {text content : GoString}
    (wrapped : relayKey.wrap text = .ok content) {address : GoString}
    (found : extractFromHeader server.lib text = some address) :
    openPayload server.lib material row content = .ready address text := by
  unfold openPayload
  rw [kind, keyed]
  dsimp only
  rw [relayKey.unwrap_wrap _ _ wrapped]
  dsimp only
  rw [found]

theorem reads_bareWorker {key content : GoString} (ref : row.payloadBlobRef = key)
    (only : ∀ other, .put key other ∈ writes → other = content) :
    Reads server writes row (bareWorker content (server.relayKey.map RelayKey.unwrap)) := by
  refine ⟨?_, rfl⟩
  intro other put found read
  rw [ref] at put
  rw [only other put]
  exact (Except.ok.inj read).symm

theorem outbox_safe (parses : ParsesPlain server.lib) (tables : FromSteady server.lib)
    {body : OutboxPostBody}
    (accepted : apiMailOutboxPost server situation userID (some body) = (.ok ⟨some row⟩, writes))
    (safe : (recipients row).length = 0 ∨ OutboxSafe server userID body) :
    SafeSender server userID row writes := by
  obtain ⟨cipher, sentCopy, decoded, made, copied⟩ := apiMailOutboxPost_accepted accepted
  have kind : row.kind = .pgp := by
    rw [made]
    rfl
  intro material fromAddr payload reads ready
  obtain ⟨addressed, content, opened, plain, read, unfolded, sender, -⟩ := prepare_ready ready
  have safe := safe.resolve_left addressed
  rcases copied with ⟨bare, none, only⟩ | ⟨copied, copy, _, some, checked, -⟩
  · have unnamed : row.sentCopyFromAddr = [] := by
      rw [made, none]
      rfl
    have same : content = cipher := by
      apply reads.blob cipher ?_ content read
      rw [made, only]
      exact List.mem_singleton_self _
    subst same
    obtain ⟨message, extracted, given, -⟩ := (openPayload_bare kind unnamed).mp unfolded
    rw [if_neg given] at sender
    obtain ⟨place, address, field, known, ⟨stop, stops, names⟩, may⟩ :=
      safe.resolve_left (by simp [bare]) content decoded message
    rw [sender_read tables field known stops names] at extracted
    rw [← Option.some.inj sender, ← Option.some.inj extracted]
    exact may
  · have copy : row.sentCopyFromAddr = trimSpace body.fromAddr := by
      rw [made, some, ← checked.fromAddr]
      rfl
    obtain ⟨identity, found⟩ := checked.found
    obtain ⟨given, may⟩ := openPayload_copy parses found kind copy unfolded
    rw [if_neg given] at sender
    rw [← Option.some.inj sender]
    exact may

theorem safe_outbox (tables : FromSteady server.lib) {body : OutboxPostBody}
    (accepted : apiMailOutboxPost server situation userID (some body) = (.ok ⟨some row⟩, writes))
    (inPlace : ∀ content, base64Decode body.payloadCiphertextB64 = some content →
      SenderInPlace server.lib content)
    (safe : SafeSender server userID row writes) :
    (recipients row).length = 0 ∨ OutboxSafe server userID body := by
  obtain ⟨cipher, sentCopy, decoded, made, copied⟩ := apiMailOutboxPost_accepted accepted
  have kind : row.kind = .pgp := by
    rw [made]
    rfl
  have ref : row.payloadBlobRef = outboxKey situation.userText situation.outboxID := by
    rw [made]
    rfl
  rcases copied with ⟨bare, none, only⟩ | ⟨copied, -⟩
  · by_cases addressed : (recipients row).length = 0
    · exact .inl addressed
    refine .inr (.inr fun content given message => ?_)
    obtain rfl : content = cipher := Option.some.inj (given.symm.trans decoded)
    obtain ⟨place, address, field, known, stop, stops, names⟩ := inPlace content given message
    refine ⟨place, address, field, known, ⟨stop, stops, names⟩, ?_⟩
    have extracted := sender_read tables field known stops names
    obtain ⟨-, -, -, -, given⟩ := field
    have unnamed : row.sentCopyFromAddr = [] := by
      rw [made, none]
      rfl
    have opened : openPayload server.lib
        (bareWorker content (server.relayKey.map RelayKey.unwrap)) row content =
          .ready address content :=
      (openPayload_bare kind unnamed).mpr ⟨message, extracted, given, rfl⟩
    refine safe _ _ _ (reads_bareWorker ref ?_) (prepare_bareWorker addressed opened given)
    intro other put
    rw [only, List.mem_singleton] at put
    exact (BlobWrite.put.inj put).2
  · exact .inr (.inl copied)

theorem relay_sender (kind : row.kind = .plaintextRelay) {relayKey : RelayKey}
    (keyed : server.relayKey = some relayKey) {text cipher address : GoString}
    (wrapped : relayKey.wrap text = .ok cipher)
    (found : extractFromHeader server.lib text = some address)
    (stored : .put row.payloadBlobRef cipher ∈ writes) (reads : Reads server writes row material)
    {fromAddr payload : GoString}
    (ready : prepare server.lib material row = .ready fromAddr payload) :
    fromAddr ≠ [] ∧ fromAddr = address := by
  obtain ⟨-, content, opened, plain, read, unfolded, sender, given⟩ := prepare_ready ready
  have same : content = cipher := reads.blob cipher stored content read
  have relay : material.relayKey = some relayKey.unwrap := by
    rw [reads.relayKey, keyed]
    rfl
  rw [same, openPayload_relay kind relay wrapped found] at unfolded
  obtain ⟨rfl, rfl⟩ := Prepared.ready.inj unfolded
  refine ⟨given, ?_⟩
  split at sender
  · rw [found] at sender
    exact (Option.some.inj sender).symm
  · exact (Option.some.inj sender).symm

theorem relay_sends (kind : row.kind = .plaintextRelay) {relayKey : RelayKey}
    (keyed : server.relayKey = some relayKey) {text cipher address : GoString}
    (wrapped : relayKey.wrap text = .ok cipher)
    (found : extractFromHeader server.lib text = some address) (given : address ≠ [])
    (addressed : (recipients row).length ≠ 0) :
    prepare server.lib (bareWorker cipher (server.relayKey.map RelayKey.unwrap)) row =
      .ready address text := by
  have relay : (bareWorker cipher (server.relayKey.map RelayKey.unwrap)).relayKey =
      some relayKey.unwrap := by
    rw [keyed]
    rfl
  have opened : openPayload server.lib
      (bareWorker cipher (server.relayKey.map RelayKey.unwrap)) row cipher = .ready address text :=
    openPayload_relay kind relay wrapped found
  exact prepare_bareWorker addressed opened given

theorem outboxKey_ne_protectedLinkKey (userText outboxID token : GoString) :
    protectedLinkKey token ≠ outboxKey userText outboxID := by
  intro clash
  have first := congrArg List.head? clash
  simp [outboxKey, protectedLinkKey, ascii] at first

theorem notice_safe (parses : ParsesPlain server.lib) {body : ProtectedLinkCreateBody}
    (accepted : routeProtectedLinksAuthored server situation userID (some body) =
      (.ok ⟨some row⟩, writes)) (safe : NoticeSafe server userID body) :
    SafeSender server userID row writes := by
  obtain ⟨relayKey, cipher, toAddrs, subject, bodyText, summary, token, link, keyed, wrapped, made,
    only⟩ := routeProtectedLinksAuthored_accepted accepted
  have kind : row.kind = .plaintextRelay := by
    rw [made]
    rfl
  have stored : .put row.payloadBlobRef cipher ∈ writes := by
    rw [made, only]
    simp [insertOutboxMeta]
  intro material fromAddr payload reads ready
  by_cases blank : trimSpace body.notifyFromAddr = []
  · have own : trimSpace (noticeFrom server body) = noReply server := by
      rw [noticeFrom, if_pos blank, trimSpace_mailbox (noReply_mailbox server)]
    rw [own] at wrapped
    have found := extractFromHeader_notice server situation toAddrs subject bodyText
      (messageDomain_noReply server parses)
    rw [(relay_sender kind keyed wrapped found stored reads ready).2,
      headerMailbox_mailbox (noReply_mailbox server)]
    exact .inr rfl
  · obtain ⟨plain, address, names, harmless⟩ := safe.resolve_left blank
    rw [← (headerMailbox_iff _ _ _).mpr names] at harmless
    have asked : trimSpace (noticeFrom server body) = trimSpace body.notifyFromAddr := by
      rw [noticeFrom, if_neg blank, trimSpace_trimSpace]
    rw [asked] at wrapped
    have found := extractFromHeader_notice server situation toAddrs subject bodyText plain
    obtain ⟨given, same⟩ := relay_sender kind keyed wrapped found stored reads ready
    rw [same] at given ⊢
    exact harmless.resolve_left given

theorem safe_notice {body : ProtectedLinkCreateBody}
    (accepted : routeProtectedLinksAuthored server situation userID (some body) =
      (.ok ⟨some row⟩, writes))
    (plain : isPlainText (messageDomain server (trimSpace body.notifyFromAddr)) = true)
    (safe : SafeSender server userID row writes) :
    (recipients row).length = 0 ∨ NoticeSafe server userID body := by
  obtain ⟨relayKey, cipher, toAddrs, subject, bodyText, summary, token, link, keyed, wrapped, made,
    only⟩ := routeProtectedLinksAuthored_accepted accepted
  have kind : row.kind = .plaintextRelay := by
    rw [made]
    rfl
  have ref : row.payloadBlobRef = outboxKey situation.userText situation.outboxID := by
    rw [made]
    rfl
  by_cases blank : trimSpace body.notifyFromAddr = []
  · exact .inr (.inl blank)
  by_cases addressed : (recipients row).length = 0
  · exact .inl addressed
  right
  right
  refine ⟨plain, ?_⟩
  have asked : trimSpace (noticeFrom server body) = trimSpace body.notifyFromAddr := by
    rw [noticeFrom, if_neg blank, trimSpace_trimSpace]
  rw [asked] at wrapped
  have found := extractFromHeader_notice server situation toAddrs subject bodyText plain
  refine ⟨_, (headerMailbox_iff _ _ _).mp rfl, ?_⟩
  by_cases unnamed : headerMailbox server.lib (firstLine (trimSpace body.notifyFromAddr)) = []
  · exact .inl unnamed
  · right
    refine safe _ _ _ (reads_bareWorker ref ?_)
      (relay_sends kind keyed wrapped found unnamed addressed)
    intro other put
    rw [only] at put
    simp only [List.mem_cons, BlobWrite.put.injEq, List.not_mem_nil, or_false] at put
    rcases put with ⟨clash, -⟩ | ⟨-, same⟩
    · exact absurd clash.symm (outboxKey_ne_protectedLinkKey _ _ _)
    · exact same

end Safe

def forgedPayload : GoString := ascii "From: eve@x.org\r\n\r\nhi"

def forgedLibrary : Library :=
  { Library.plain with
    readMessage := fun text =>
      if text = forgedPayload then
        some fun name => if name = ascii "From" then ascii "eve@x.org" else []
      else none }

def forgedServer : Server where
  lib := forgedLibrary
  identities := [⟨1, ascii "ann@e.org", true, by decide⟩]
  directory := ⟨fun _ => .error .notFound, fun _ => .error .notFound, fun _ => .error .notFound⟩
  mailDomain := ascii "e.org"
  mailDomain_plain := by decide
  publicBaseURL := []
  relayKey := none
  jsonValid := fun _ => true
  formatRFC1123 := fun _ => []

def forgedSituation : Situation where
  userText := ascii "u"
  now := 0
  clock := 0
  outboxID := ascii "o"
  sentCopyID := ascii "s"
  rowID := 1
  token := .ok []
  date := []
  date_plain := rfl
  messageStamp := []
  messageStamp_plain := rfl
  lookup := none
  blobPut := fun _ => none
  createLink := none
  insertOutbox := none
  ingest := fun _ => none
  requestBase := []

/-- A request with the payload, and with a sender copy where one is given. -/
def forgedBody (copy fromAddr : GoString) : OutboxPostBody where
  payloadCiphertextB64 := ascii "RnJvbTogZXZlQHgub3JnDQoNCmhp"
  recipientSummary := [ascii "b@y.org"]
  senderHeaderCiphertextB64 := copy
  senderBodyCiphertextB64 := copy
  fromAddr

def forgedRow (sentCopy : Option OutboxSentCopy) : OutboxRow :=
  insertOutboxMeta 0 1 1 .pgp (ascii "outbox/u/o.enc") 21 (ascii "b@y.org") [] 0 sentCopy

def honestCopy : OutboxSentCopy where
  bodyBlobRef := ascii "outbox/u/s-sentcopy.enc"
  bodySizeBytes := 2
  headerCiphertext := ascii "hi"
  fromAddr := ascii "Ann@e.org"

end ElvishMail.Httpserver
