import ProxyFleet.Fleet.Basic
import ProxyFleet.Proofs.Address.Offset
import ProxyFleet.Proofs.Settings.Check

/-!
# The proxies of a fleet

Each slot of a fleet has a proxy with a workload and an address of its own. The addresses are those
that follow the address of the settings, as long as there are any, so that some slot has none only
if the last one has none (`Fleet.offsetIp_adds`). The settings of a slot pass their check like those
of the fleet, and no two slots have the same node (`Fleet.slots_accepted_and_distinct`): a workload
and a namespace may hold any separators, but an address holds none, and it stands in front of them.
-/

namespace ProxyFleet

/-- What stands in front of the first separator, and what behind it, is the same if the whole is.
Behind there may be more separators, unlike in `List.append_cons_inj_of_notMem`. -/
theorem append_cons_inj_of_not_mem_front {mark : Char} {front front' behind behind' : List Char}
    (hfront : mark ∉ front) (hfront' : mark ∉ front')
    (h : front ++ mark :: behind = front' ++ mark :: behind') :
    front = front' ∧ behind = behind' := by
  have htaken : ∀ {l rest : List Char}, mark ∉ l →
      (l ++ mark :: rest).takeWhile (· ≠ mark) = l := by
    intro l rest hl
    have hothers : ∀ c ∈ l, decide (c ≠ mark) = true := by
      intro c hc
      exact decide_eq_true fun hmark ↦ hl (hmark ▸ hc)
    rw [List.takeWhile_append_of_pos hothers, List.takeWhile_cons_of_neg (by simp), List.append_nil]
  have hsame : front = front' := by rw [← htaken hfront, h, htaken hfront']
  subst hsame
  exact ⟨rfl, (List.cons.inj (List.append_cancel_left h)).2⟩

/-! ## Nodes -/

namespace Identity

variable {i j : Identity}

/-- Where a proxy belongs: its workload and its namespace. -/
def place (i : Identity) : String :=
  i.workload ++ "." ++ i.namespaceName ++ "~" ++ i.namespaceName ++ ".svc.cluster.local"

theorem toList_nodeId (i : Identity) : i.nodeId.toList =
    i.role.word.toList ++ '~' :: (i.ip.toList ++ '~' :: i.place.toList) := by
  simp [nodeId, place]

theorem not_mem_ip (h : (IpAddress.parse? i.ip).isSome = true) : '~' ∉ i.ip.toList := by
  obtain ⟨a, ha⟩ := Option.isSome_iff_exists.mp h
  intro hmem
  exact absurd (IpAddress.isAddressChar_of_parse? ha _ hmem) (by decide)

theorem not_mem_word (role : Role) : '~' ∉ role.word.toList := by
  cases role <;> decide

/-- Nodes of proxies with addresses tell roles, addresses and places apart. -/
theorem eq_of_nodeId_eq (hi : (IpAddress.parse? i.ip).isSome = true)
    (hj : (IpAddress.parse? j.ip).isSome = true) (h : i.nodeId = j.nodeId) :
    i.role = j.role ∧ i.ip = j.ip ∧ i.place = j.place := by
  have hchars := congrArg String.toList h
  rw [toList_nodeId, toList_nodeId] at hchars
  obtain ⟨hrole, hbehind⟩ :=
    append_cons_inj_of_not_mem_front (not_mem_word _) (not_mem_word _) hchars
  obtain ⟨hip, hplace⟩ := append_cons_inj_of_not_mem_front (not_mem_ip hi) (not_mem_ip hj) hbehind
  refine ⟨?_, String.toList_inj.mp hip, String.toList_inj.mp hplace⟩
  have hword : i.role.word = j.role.word := String.toList_inj.mp hrole
  revert hword
  cases i.role <;> cases j.role <;> decide

end Identity

namespace Fleet

/-! ## Addresses -/

section

variable {ip moved : String} {n : Nat} {a : IpAddress}

theorem toOption_offsetIp (ip : String) (n : Nat) : (offsetIp ip n).toOption =
    ((IpAddress.parse? ip).bind (·.offset? n)).map IpAddress.text := by
  rw [offsetIp]
  cases (IpAddress.parse? ip).bind (·.offset? n) <;> rfl

theorem bind_offsetIp (ip : String) (n k : Nat) :
    ((offsetIp ip n).toOption.bind fun moved ↦ (offsetIp moved k).toOption) =
      (offsetIp ip (n + k)).toOption := by
  simp only [toOption_offsetIp]
  cases IpAddress.parse? ip with
  | none => rfl
  | some a =>
    rw [Option.bind_some, Option.bind_some, ← IpAddress.bind_offset?, Option.bind_map,
      Option.map_bind]
    simp only [Function.comp_def, IpAddress.parse?_text, Option.bind_some]

theorem offsetIp_eq_ok_iff (ha : IpAddress.parse? ip = some a) :
    offsetIp ip n = .ok moved ↔ ∃ b, a.offset? n = some b ∧ b.text = moved := by
  have hoption : offsetIp ip n = .ok moved ↔ (offsetIp ip n).toOption = some moved := by
    cases offsetIp ip n <;> simp [Except.toOption]
  rw [hoption, toOption_offsetIp, ha, Option.bind_some, Option.map_eq_some_iff]

theorem exists_offsetIp_iff (ha : IpAddress.parse? ip = some a) :
    (∃ moved, offsetIp ip n = .ok moved) ↔ a.toNat + n ≤ a.last := by
  rw [← IpAddress.exists_offset?_iff]
  simp only [offsetIp_eq_ok_iff ha]
  constructor
  · rintro ⟨moved, b, hb, -⟩
    exact ⟨b, hb⟩
  · rintro ⟨b, hb⟩
    exact ⟨b.text, b, hb, rfl⟩

theorem parse?_of_offsetIp (ha : IpAddress.parse? ip = some a) (h : offsetIp ip n = .ok moved) :
    ∃ b, IpAddress.parse? moved = some b ∧ a.offset? n = some b := by
  obtain ⟨b, hb, rfl⟩ := (offsetIp_eq_ok_iff ha).mp h
  exact ⟨b, IpAddress.parse?_text b, hb⟩

end

/-! ## The settings of a slot -/

section

variable (f : Fleet) {index other : Nat} {s t : Settings}

theorem accepted : f.settings.Accepted := Settings.check_eq_ok_iff.mp f.checked

/-- The proxies of a fleet begin with some address. -/
theorem exists_address : ∃ a, IpAddress.parse? f.settings.identity.ip = some a :=
  Option.isSome_iff_exists.mp f.accepted.ip

variable {f}

theorem slotSettings_eq_ok_iff : f.slotSettings index = .ok s ↔
    ∃ ip, offsetIp f.settings.identity.ip index = .ok ip ∧
      s = { f.settings with
        identity := { f.settings.identity with
          workload := slotWorkload f.settings.identity.workload index
          ip := ip } } := by
  rw [slotSettings]
  cases offsetIp f.settings.identity.ip index with
  | error e => simp
  | ok ip => simp [eq_comm]

theorem exists_slotSettings_iff {a : IpAddress}
    (ha : IpAddress.parse? f.settings.identity.ip = some a) :
    (∃ s, f.slotSettings index = .ok s) ↔ a.toNat + index ≤ a.last := by
  rw [← exists_offsetIp_iff ha]
  simp only [slotSettings_eq_ok_iff]
  constructor
  · rintro ⟨s, ip, hip, -⟩
    exact ⟨ip, hip⟩
  · rintro ⟨ip, hip⟩
    exact ⟨_, ip, hip, rfl⟩

theorem slotWorkload_ne (workload : String) (index : Nat) : slotWorkload workload index ≠ "" := by
  intro h
  have hchars := congrArg String.toList h
  simp [slotWorkload] at hchars

theorem accepted_slotSettings (h : f.slotSettings index = .ok s) : s.Accepted := by
  obtain ⟨a, ha⟩ := f.exists_address
  obtain ⟨ip, hip, rfl⟩ := slotSettings_eq_ok_iff.mp h
  obtain ⟨b, hb, -⟩ := parse?_of_offsetIp ha hip
  exact { f.accepted with
    ip := Option.isSome_iff_exists.mpr ⟨b, hb⟩
    workload := slotWorkload_ne _ _ }

theorem eq_of_nodeId_slotSettings_eq (h : f.slotSettings index = .ok s)
    (h' : f.slotSettings other = .ok t) (hnode : s.identity.nodeId = t.identity.nodeId) :
    index = other := by
  obtain ⟨-, hip, -⟩ := Identity.eq_of_nodeId_eq (accepted_slotSettings h).ip
    (accepted_slotSettings h').ip hnode
  obtain ⟨a, ha⟩ := f.exists_address
  obtain ⟨ip, hs, rfl⟩ := slotSettings_eq_ok_iff.mp h
  obtain ⟨ip', ht, rfl⟩ := slotSettings_eq_ok_iff.mp h'
  obtain ⟨b, hb, rfl⟩ := (offsetIp_eq_ok_iff ha).mp hs
  obtain ⟨c, hc, rfl⟩ := (offsetIp_eq_ok_iff ha).mp ht
  have hbc : b = c := IpAddress.text_injective hip
  exact IpAddress.offset?_inj hb (hbc ▸ hc)

end

/-! ## Main statements -/

/-- The address of a text can be moved as far as the last one of its version; the text that comes
out is read as an address of that version, just that far on; to move on from there is to move
further at once, and fails if that fails. So the slots of a fleet up to some slot all have settings
if that slot has. -/
theorem offsetIp_adds {ip : String} {a : IpAddress} (ha : IpAddress.parse? ip = some a) :
    (∀ n, (∃ moved, offsetIp ip n = .ok moved) ↔ a.toNat + n ≤ a.last) ∧
    (∀ n moved, offsetIp ip n = .ok moved → ∃ b, moved = b.text ∧
      IpAddress.parse? moved = some b ∧ b.width = a.width ∧ b.toNat = a.toNat + n) ∧
    (∀ n k, ((offsetIp ip n).toOption.bind fun moved ↦ (offsetIp moved k).toOption) =
      (offsetIp ip (n + k)).toOption) ∧
    ∀ (f : Fleet) (count : Nat), 1 ≤ count →
      ((∀ index < count, ∃ s, f.slotSettings index = .ok s) ↔
        ∃ s, f.slotSettings (count - 1) = .ok s) := by
  refine ⟨fun n ↦ exists_offsetIp_iff ha, fun n moved h ↦ ?_, bind_offsetIp ip,
    fun f count hcount ↦ ?_⟩
  · obtain ⟨b, hb, rfl⟩ := (offsetIp_eq_ok_iff ha).mp h
    exact ⟨b, rfl, IpAddress.parse?_text b, IpAddress.offset?_eq_some_iff.mp hb⟩
  · obtain ⟨first, hfirst⟩ := f.exists_address
    simp only [exists_slotSettings_iff hfirst]
    constructor
    · exact fun h ↦ h (count - 1) (by omega)
    · intro h index hindex
      omega

/-- The last address that stands for one of version 4 is moved on to one that does not, and no
address is moved beyond the last one. -/
theorem offsetIp_adds_mapped : ∃ moved, offsetIp "::FFFF:255.255.255.255" 1 = .ok moved ∧
    (∃ b, IpAddress.parse? moved = some b ∧ b.toNat = 2 ^ 48) ∧
    ¬∃ moved, offsetIp "::FFFF:255.255.255.255" (2 ^ 128) = .ok moved := by
  have ha : IpAddress.parse? "::FFFF:255.255.255.255" = some (.v6 0xffffffffffff) := by
    decide +kernel
  obtain ⟨hrange, hread, -, -⟩ := offsetIp_adds ha
  obtain ⟨moved, hmoved⟩ := (hrange 1).mpr (by decide)
  obtain ⟨b, -, hb, -, hnumber⟩ := hread 1 moved hmoved
  exact ⟨moved, hmoved, ⟨b, hb, hnumber⟩, fun h ↦ absurd ((hrange _).mp h) (by decide)⟩

/-- The settings of a slot are those of the fleet but for the workload and the address of the proxy.
They pass their check, so that an attempt to connect is not refused for them, and the nodes of two
slots are different. -/
theorem slots_accepted_and_distinct (f : Fleet) {index : Nat} {s : Settings}
    (h : f.slotSettings index = .ok s) :
    s = { f.settings with
      identity := { f.settings.identity with
        workload := s.identity.workload
        ip := s.identity.ip } } ∧
    s.check = .ok () ∧
    (∀ (files : Files) (network : Network),
      Dial.connect s files network = Dial.dial s files network) ∧
    ∀ (other : Nat) (t : Settings), f.slotSettings other = .ok t → other ≠ index →
      t.identity.nodeId ≠ s.identity.nodeId := by
  have hcheck : s.check = .ok () := Settings.check_eq_ok_iff.mpr (accepted_slotSettings h)
  refine ⟨?_, hcheck, fun files network ↦ ?_, fun other t ht hne hnode ↦ ?_⟩
  · obtain ⟨ip, -, rfl⟩ := slotSettings_eq_ok_iff.mp h
    rfl
  · rw [Dial.connect, hcheck]
    rfl
  · exact hne (eq_of_nodeId_slotSettings_eq ht h hnode)

/-- A fleet whose workload and namespace are full of separators. -/
def separatedFleet : Fleet where
  settings := { identity := { Identity.standard with
    ip := "fd00::FFFF"
    workload := "~.-"
    namespaceName := "-1.~" } }
  checked := by rfl

/-- Two slots of such a fleet have settings that pass and different nodes. -/
theorem slots_accepted_and_distinct_separated : ∃ s t,
    separatedFleet.slotSettings 0 = .ok s ∧ separatedFleet.slotSettings 1 = .ok t ∧
      s.check = .ok () ∧ t.identity.nodeId ≠ s.identity.nodeId := by
  have ha : IpAddress.parse? separatedFleet.settings.identity.ip =
      some (.v6 0xfd00000000000000000000000000ffff) := by
    decide +kernel
  obtain ⟨s, hs⟩ : ∃ s, separatedFleet.slotSettings 0 = .ok s :=
    (exists_slotSettings_iff ha).mpr (by decide)
  obtain ⟨t, ht⟩ : ∃ t, separatedFleet.slotSettings 1 = .ok t :=
    (exists_slotSettings_iff ha).mpr (by decide)
  obtain ⟨-, hcheck, -, hdistinct⟩ := slots_accepted_and_distinct separatedFleet hs
  exact ⟨s, t, hs, ht, hcheck, hdistinct 1 t ht (by decide)⟩

end Fleet

end ProxyFleet
