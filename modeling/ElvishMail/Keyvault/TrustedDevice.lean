import ElvishMail.Keyvault.Vault

/-!
# The trusted device

`storage` asks `readTrustedDeviceFlag` which storage to use, and `readTrustedDeviceFlag` asks
`storage` where the flag is. Neither call ever returns by itself: what they answer is decided where
the stack ends.
-/

namespace ElvishMail.Keyvault

open Js

inductive Lookup where
  | storage
  | readTrustedDeviceFlag

abbrev Lookup.Result : Lookup → Type
  | storage => Option Bool
  | readTrustedDeviceFlag => Bool

namespace Vault

/-- `storage` once the flag is read. -/
def storageFor (vault : Vault) (trusted : Bool) : Option Bool :=
  if trusted then vault.localStorage.map fun _ => true else vault.sessionStorage.map fun _ => false

/-- `readTrustedDeviceFlag` once the storage is found. -/
def flagIn (vault : Vault) : Option Bool → Bool
  | none => false
  | some true => (vault.localStorage.map Storage.trusted).getD false
  | some false => (vault.sessionStorage.map Storage.trusted).getD false

inductive Returns (vault : Vault) : (lookup : Lookup) → lookup.Result → Prop
  | storage {trusted : Bool} (read : Returns vault .readTrustedDeviceFlag trusted) :
    Returns vault .storage (vault.storageFor trusted)
  | readTrustedDeviceFlag {store : Option Bool} (found : Returns vault .storage store) :
    Returns vault .readTrustedDeviceFlag (vault.flagIn store)

variable (host : Host)

/-- `TRUSTED_IDLE_MS` and `DEFAULT_IDLE_MS`, as `setIdleMs` keeps them. -/
def preferredIdleMs (vault : Vault) : Nat :=
  max (60 * 1000)
    (if vault.readTrustedDeviceFlag host then 14 * 24 * 60 * 60 * 1000 else 15 * 60 * 1000)

/-- `setTrustedDevice`, with the idle time that `applyTrustedIdlePreference` sets. -/
def setTrustedDevice (vault : Vault) (enabled : Bool) : Vault × Nat :=
  let vault := vault.update host fun storage => { storage with trusted := enabled }
  let idleMs := vault.preferredIdleMs host
  (if vault.accountPrivateKey.isSome then vault.touch else vault, idleMs)

/-- A tab opened later: it shares the local storage and starts with a session storage of its own. -/
structure OpenedLater (vault tab : Vault) : Prop where
  shared : tab.localStorage = vault.localStorage
  fresh : tab.sessionStorage = some {}

def Cleared (vault : Vault) : Prop :=
  ∀ storage, vault.sessionStorage = some storage ∨ vault.localStorage = some storage →
    storage.account = none

/-- What the flag is for: the calls return, a trusted device stays so in this tab and in later ones,
its cache is the local storage, and logging out ends it. Tabs may have less or more stack left. -/
structure TrustedDeviceWorks (vault : Vault) : Prop where
  storage : ∃ store, Returns vault .storage store
  flag : ∃ trusted, Returns vault .readTrustedDeviceFlag trusted
  here : (vault.setTrustedDevice host true).1.readTrustedDeviceFlag host = true
  later : ∀ other tab, (vault.setTrustedDevice host true).1.OpenedLater tab →
    tab.readTrustedDeviceFlag other = true
  persists : ∀ writer sessionEmail armoredPub, vault.accountArmoredPriv ≠ [] → armoredPub ≠ [] →
    (((vault.setTrustedDevice host true).1.persistAccountCache host writer sessionEmail
      armoredPub).localStorage.bind Storage.account).isSome = true
  ended : (vault.zero host true true).readTrustedDeviceFlag host = false ∧
    (vault.zero host true true).Cleared

end Vault

section Lookups

variable {host : Host} {vault : Vault}

theorem not_returns {lookup : Lookup} {result : lookup.Result} : ¬Vault.Returns vault lookup result := by
  intro returns
  induction returns with
  | storage read ih => exact ih
  | readTrustedDeviceFlag found ih => exact ih

theorem storageAt_untrusted (untrusted : (vault.sessionStorage.map Storage.trusted).getD false = false)
    (depth : Nat) : vault.storageAt depth = none ∨ vault.storageAt depth = some false := by
  induction depth with
  | zero => exact .inl rfl
  | succ depth ih =>
    have session : vault.storageAt (depth + 1) = vault.sessionStorage.map fun _ => false := by
      rw [Vault.storageAt]
      rcases ih with none | found
      · rw [none]
        rfl
      · simp only [found, untrusted]
        rfl
    rw [session]
    cases vault.sessionStorage with
    | none => exact .inl rfl
    | some storage => exact .inr rfl

theorem readTrustedDeviceFlag_untrusted
    (untrusted : (vault.sessionStorage.map Storage.trusted).getD false = false) :
    vault.readTrustedDeviceFlag host = false := by
  unfold Vault.readTrustedDeviceFlag Vault.storage
  rcases storageAt_untrusted untrusted host.depth with none | found
  · rw [none]
  · rw [found]
    exact untrusted

theorem later_untrusted {tab : Vault} (later : vault.OpenedLater tab) :
    tab.readTrustedDeviceFlag host = false := by
  refine readTrustedDeviceFlag_untrusted ?_
  rw [later.fresh]
  rfl

/-- Whatever the storages hold and however deep the stack is: no call of the two functions returns by
itself, and the flag that was set is not seen in a tab opened later, so that the trusted device does
not work. -/
theorem trusted_device_never (host : Host) (vault : Vault) :
    (∀ lookup result, ¬Vault.Returns vault lookup result) ∧
      (∀ other tab, (vault.setTrustedDevice host true).1.OpenedLater tab →
        tab.readTrustedDeviceFlag other = false) ∧
      ¬vault.TrustedDeviceWorks host :=
  ⟨fun _ _ => not_returns, fun _ _ later => later_untrusted later,
    fun works => works.storage.elim fun _ => not_returns⟩

def shallowHost : Host where
  lib := .plain
  b64ToText := some
  depth := 5

/-- After `setTrustedDevice(true)` in a new browser, the flag is in the session storage, where the
next tab does not find it. -/
theorem trusted_device_forgotten :
    (({} : Vault).setTrustedDevice shallowHost true).1.sessionStorage = some { trusted := true } ∧
      ({} : Vault).OpenedLater {} ∧ ({} : Vault).readTrustedDeviceFlag shallowHost = false ∧
      ¬({} : Vault).TrustedDeviceWorks shallowHost := by
  refine ⟨by decide, ⟨rfl, rfl⟩, by decide, fun works => ?_⟩
  have later := works.later shallowHost {} ⟨by decide, rfl⟩
  revert later
  decide

end Lookups

end ElvishMail.Keyvault
