import ElvishMail.Mailworker.Acceptance

/-!
# Permanent and transient failures

The package header promises that a 5xx reply is recorded as a permanent failure
with bounces and everything else as a retry. The client turns every reply to
MAIL, RCPT and DATA into an untyped error, so that a 5xx there is a retry as
well: `classified_iff` says exactly when the promise is kept.
-/

namespace ElvishMail.Mailworker

open Go Smtp Mailmeta Semantics

/-- The message is prepared and every domain before this one is served. -/
def Reached (cfg : Config) (material : Material) (net : Network) (order : MapOrder) (row : OutboxRow)
    (fromAddr payload : GoString) (group : GoString × List GoString) : Prop :=
  prepare cfg.lib material row = .ready fromAddr payload ∧
    ∃ before after, order.arrange (domains cfg row) = before ++ group :: after ∧
      ∀ earlier ∈ before, (serve cfg net fromAddr payload earlier).1 = none

/-- The promise for one domain: a 5xx reply to MAIL, RCPT, DATA or the message is
returned as a permanent reply error, on which `deliver` writes the bounces and
fails the row; without any such reply, without an over-long line and without an
acceptance the error is not permanent, and `deliver` reschedules the row. -/
structure Classified (cfg : Config) (net : Network) (fromAddr payload : GoString)
    (group : GoString × List GoString) : Prop where
  permanent :
    (∃ held ∈ (serve cfg net fromAddr payload group).2,
      held.any (fun event => event.refuses || event.rejects) = true) →
    ∃ err serr, (serve cfg net fromAddr payload group).1 = some err ∧ err.asSMTP = some serr ∧
      serr.isPermanent = true ∧
      ∀ material order row, Reached cfg material net order row fromAddr payload group →
        (deliver cfg material net order row).statements = permanentFailure row group.2 serr
  transient :
    (∀ held ∈ (serve cfg net fromAddr payload group).2, ∀ event ∈ held,
      (event.accepts || event.refuses || event.rejects || event.overlong) = false) →
    ∃ err, (serve cfg net fromAddr payload group).1 = some err ∧ ¬ Permanent (some err) ∧
      ∀ material order row, Reached cfg material net order row fromAddr payload group →
        (deliver cfg material net order row).statements = [.markOutboxFailed row.id 0 err.text true]

/-- If a host tried answers MAIL, RCPT or DATA with a 5xx code, then the last host
tried answers the message itself with one, or is owed a line too long to write. -/
def Reported (cfg : Config) (net : Network) (fromAddr payload : GoString)
    (group : GoString × List GoString) : Prop :=
  let envelope : Envelope := { fromAddr, rcpt := group.2, payload }
  let hosts := tried cfg envelope (net.hosts group.1)
  (∃ host ∈ hosts, (conversation cfg envelope host).any WireEvent.refuses = true) →
    ∃ host, hosts.getLast? = some host ∧ (conversation cfg envelope host).any reports = true

section Classified

variable {cfg : Config} {material : Material} {net : Network} {order : MapOrder} {row : OutboxRow}
  {fromAddr payload : GoString} {group : GoString × List GoString} {err : GoError}

theorem deliver_of_reached (reached : Reached cfg material net order row fromAddr payload group)
    (fails : (serve cfg net fromAddr payload group).1 = some err) :
    (deliver cfg material net order row).statements = failDomain row group.2 err := by
  obtain ⟨ready, before, after, split, served⟩ := reached
  exact (deliver_failing ready split served fails).1

theorem tried_getLast_of_rejects {envelope : Envelope} {hosts : List Host} {host : Host}
    (member : host ∈ tried cfg envelope hosts)
    (rejected : (conversation cfg envelope host).any WireEvent.rejects = true) :
    (tried cfg envelope hosts).getLast? = some host := by
  induction hosts with
  | nil => simp [tried] at member
  | cons first rest ih =>
    rw [tried] at member ⊢
    split at member
    · rename_i stopped
      rw [List.mem_singleton] at member
      simp [stopped, member]
    · rename_i goesOn
      have later : host ∈ tried cfg envelope rest := by
        rcases List.mem_cons.mp member with rfl | later
        · refine absurd ?_ goesOn
          obtain ⟨event, inside, rejects⟩ := List.any_eq_true.mp rejected
          refine List.any_eq_true.mpr ⟨event, inside, ?_⟩
          unfold stops
          split
          · rfl
          · rw [rejects, Bool.or_true]
        · exact later
      rw [if_neg goesOn, List.getLast?_cons_of_ne_nil (List.ne_nil_of_mem later)]
      exact ih later

/-- Permanent failures are classified as promised exactly when a 5xx reply before
the message does not go unreported; transient ones always are. -/
theorem classified_iff (cfg : Config) (net : Network) (fromAddr payload : GoString)
    (group : GoString × List GoString) :
    Classified cfg net fromAddr payload group ↔ Reported cfg net fromAddr payload group := by
  have serveEq := deliverDomain_eq cfg net group.1 { fromAddr, rcpt := group.2, payload }
  have heldEq := tryHosts_conversations cfg { fromAddr, rcpt := group.2, payload }
    (net.hosts group.1) none
  have permanentIff := tryHosts_permanent cfg { fromAddr, rcpt := group.2, payload } none
    (net.hosts_ne_nil group.1)
  have deliveredIff := tryHosts_delivered cfg { fromAddr, rcpt := group.2, payload }
    (net.hosts group.1) none
  rw [← serveEq] at heldEq permanentIff deliveredIff
  change (serve cfg net fromAddr payload group).2 = _ at heldEq
  change Permanent (serve cfg net fromAddr payload group).1 ↔ _ at permanentIff
  change (serve cfg net fromAddr payload group).1 = none ↔ _ at deliveredIff
  constructor
  · rintro ⟨permanent, -⟩ ⟨host, member, refuses⟩
    obtain ⟨err, serr, failed, typed, fatal, -⟩ := permanent (by
      rw [heldEq]
      refine ⟨_, List.mem_map_of_mem member, ?_⟩
      obtain ⟨event, inside, refused⟩ := List.any_eq_true.mp refuses
      exact List.any_eq_true.mpr ⟨event, inside, by rw [refused, Bool.true_or]⟩)
    exact permanentIff.mp ⟨err, serr, failed, typed, fatal⟩
  · intro reported
    constructor
    · rintro ⟨held, member, seen⟩
      rw [heldEq] at member
      obtain ⟨host, hostTried, rfl⟩ := List.mem_map.mp member
      obtain ⟨event, inside, either⟩ := List.any_eq_true.mp seen
      have decided : Permanent (serve cfg net fromAddr payload group).1 := by
        rw [permanentIff]
        rcases Bool.or_eq_true_iff.mp either with refuses | rejects
        · exact reported ⟨host, hostTried, List.any_eq_true.mpr ⟨event, inside, refuses⟩⟩
        · refine ⟨host, tried_getLast_of_rejects hostTried
            (List.any_eq_true.mpr ⟨event, inside, rejects⟩), ?_⟩
          exact List.any_eq_true.mpr ⟨event, inside, by rw [reports, rejects, Bool.true_or]⟩
      obtain ⟨err, serr, failed, typed, fatal⟩ := decided
      refine ⟨err, serr, failed, typed, fatal, ?_⟩
      intro material order row reached
      rw [deliver_of_reached reached failed, failDomain_permanent typed fatal]
    · intro harmless
      rw [heldEq] at harmless
      have unserved : (serve cfg net fromAddr payload group).1 ≠ none := by
        intro served
        obtain ⟨host, hostTried, accepts⟩ := deliveredIff.mp served
        obtain ⟨event, inside, accepted⟩ := List.any_eq_true.mp accepts
        have silent := harmless _ (List.mem_map_of_mem hostTried) event inside
        simp [accepted] at silent
      obtain ⟨err, failed⟩ := Option.ne_none_iff_exists'.mp unserved
      have mild : ¬ Permanent (some err) := by
        rw [← failed, permanentIff]
        rintro ⟨host, last, reporting⟩
        obtain ⟨event, inside, reported⟩ := List.any_eq_true.mp reporting
        have silent := harmless _ (List.mem_map_of_mem (List.mem_of_getLast? last)) event inside
        rcases Bool.or_eq_true_iff.mp reported with rejects | overlong
        · simp [rejects] at silent
        · simp [overlong] at silent
      refine ⟨err, failed, mild, ?_⟩
      intro material order row reached
      rw [deliver_of_reached reached failed, failDomain_transient mild]

/-- A host answers RCPT with 550: the error is transient and no bounce is written. -/
theorem rcpt_refusal_not_classified :
    ¬ Classified .sample (.single fun _ => scripted "250 ok" "550 no such user" "354 go" "250 ok")
      (ascii "s@y.org") (ascii "hi") (ascii "x.org", [ascii "a@x.org"]) := by
  rintro ⟨permanent, -⟩
  obtain ⟨err, serr, failed, typed, -⟩ := permanent (by decide)
  have answered : (serve .sample (.single fun _ => scripted "250 ok" "550 no such user" "354 go"
      "250 ok") (ascii "s@y.org") (ascii "hi") (ascii "x.org", [ascii "a@x.org"])).1 =
      some (.plain (ascii "rcpt: 550 no such user")) := by decide
  rw [answered] at failed
  cases failed
  cases typed

end Classified

end ElvishMail.Mailworker
