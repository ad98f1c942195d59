import Mathlib.Data.List.Basic
import ProxyFleet.Settings.Basic

/-!
# Settings that pass their check

The check notes all values out of their ranges and then looks at values that must fit together.
`Settings.check_eq_ok_iff` says what it comes to: settings pass if and only if they are `Accepted`.
Nobody opens the check after this file.
-/

namespace ProxyFleet.Settings

/-- Settings with all values in their ranges that fit together. -/
structure Accepted (s : Settings) : Prop where
  /-- The address has a scheme. -/
  scheme : s.hasScheme "http://" = true ∨ s.isSecure = true
  ip : (IpAddress.parse? s.identity.ip).isSome = true
  workload : s.identity.workload ≠ ""
  namespaceName : s.identity.namespaceName ≠ ""
  /-- Credentials fit an encrypted connection and each other. -/
  tls : ∀ tls, s.tls = some tls → s.isSecure = true ∧ tls.checkPairing = .ok ()
  /-- The number of kept events is in its range. -/
  eventBuffer : 1 ≤ s.eventBuffer ∧ s.eventBuffer ≤ 10000
  /-- The time to connect is in its range. -/
  connectSeconds : 1 ≤ s.connectSeconds ∧ s.connectSeconds ≤ 300
  /-- There is a level of what is logged. -/
  level : s.logging.level ≠ ""
  /-- The number of sessions is in its range. -/
  sessions : 1 ≤ s.fleet.sessions ∧ s.fleet.sessions ≤ 100000
  /-- There is time to converge. -/
  convergenceSeconds : 1 ≤ s.fleet.convergenceSeconds
  /-- There is a delay before a session comes back. -/
  firstDelayMillis : 1 ≤ s.fleet.firstDelayMillis
  /-- It does not exceed the greatest one. -/
  delays : s.fleet.firstDelayMillis ≤ s.fleet.maxDelayMillis

section

variable {s : Settings}

@[simp] theorem demand_eq_nil_iff {field message : String} {holds : Bool} :
    demand field holds message = [] ↔ holds = true := by
  cases holds <;> simp [demand]

@[simp] theorem inside_eq_nil_iff {field : String} {faults : List (String × FieldFaults)} :
    inside field faults = [] ↔ faults = [] := by
  cases faults <;> simp [inside]

@[simp] theorem within_iff {least greatest n : Nat} :
    within least greatest n = true ↔ least ≤ n ∧ n ≤ greatest := by
  simp [within]

theorem address_ne_of_hasScheme {scheme : String} (hscheme : scheme ≠ "")
    (h : s.hasScheme scheme = true) : s.address ≠ "" := by
  intro haddress
  rw [hasScheme, haddress] at h
  exact hscheme (String.toList_eq_nil_iff.mp (List.prefix_nil.mp (List.isPrefixOf_iff_prefix.mp h)))

theorem checkScheme_eq_ok_iff :
    s.checkScheme = .ok () ↔ s.hasScheme "http://" = true ∨ s.isSecure = true := by
  rw [checkScheme, ← Bool.or_eq_true]
  split <;> simp_all

theorem checkTls_eq_ok_iff :
    s.checkTls = .ok () ↔
      ∀ tls, s.tls = some tls → s.isSecure = true ∧ tls.checkPairing = .ok () := by
  rw [checkTls]
  cases s.tls with
  | none => simp
  | some tls =>
    dsimp only
    split <;> simp_all

theorem checkDelays_eq_ok_iff :
    s.checkDelays = .ok () ↔ s.fleet.firstDelayMillis ≤ s.fleet.maxDelayMillis := by
  rw [checkDelays]
  split <;> simp_all

theorem check_eq_ok_iff_parts : s.check = .ok () ↔
    s.faults = [] ∧ s.checkScheme = .ok () ∧ s.checkTls = .ok () ∧ s.checkDelays = .ok () := by
  rw [check]
  split
  case isTrue h =>
    rw [and_iff_right (List.isEmpty_iff.mp h)]
    cases s.checkScheme with
    | error e => exact iff_of_false (by simp [bind, Except.bind]) (by simp)
    | ok u =>
      cases s.checkTls with
      | error e => exact iff_of_false (by simp [bind, Except.bind]) (by simp)
      | ok u => exact ⟨fun h ↦ ⟨rfl, rfl, h⟩, fun h ↦ h.2.2⟩
  case isFalse h =>
    exact iff_of_false (by simp) fun hparts ↦ h (List.isEmpty_iff.mpr hparts.1)

/-- Settings pass their check just if they are accepted. -/
theorem check_eq_ok_iff : s.check = .ok () ↔ s.Accepted := by
  rw [check_eq_ok_iff_parts, checkScheme_eq_ok_iff, checkTls_eq_ok_iff, checkDelays_eq_ok_iff]
  constructor
  · rintro ⟨hfaults, hscheme, htls, hdelays⟩
    simp only [faults, identityFaults, loggingFaults, fleetFaults, List.append_eq_nil_iff,
      demand_eq_nil_iff, inside_eq_nil_iff, within_iff, decide_eq_true_eq] at hfaults
    obtain ⟨⟨⟨⟨⟨-, ⟨hip, hworkload⟩, hnamespace⟩, hbuffer⟩, hconnect⟩, hlevel⟩,
      ⟨⟨hsessions, hconvergence⟩, hfirst⟩, -⟩ := hfaults
    exact ⟨hscheme, hip, hworkload, hnamespace, htls, hbuffer, hconnect, hlevel, hsessions,
      hconvergence, hfirst, hdelays⟩
  · intro h
    have haddress : s.address ≠ "" :=
      h.scheme.elim (address_ne_of_hasScheme (by decide)) (address_ne_of_hasScheme (by decide))
    have hmax := Nat.le_trans h.firstDelayMillis h.delays
    refine ⟨?_, h.scheme, h.tls, h.delays⟩
    simp [faults, identityFaults, loggingFaults, fleetFaults, haddress, h.ip, h.workload,
      h.namespaceName, h.eventBuffer, h.connectSeconds, h.level, h.sessions, h.convergenceSeconds,
      h.firstDelayMillis, hmax]

end

end ProxyFleet.Settings
