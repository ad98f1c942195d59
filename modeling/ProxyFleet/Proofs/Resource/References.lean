import ProxyFleet.Resource.Dependencies

/-!
# What listeners refer to

The names that a batch of listeners needs are collected by a walk: through the chains of each
listener, the filters and the socket of each chain, and the configurations inside them, which have
to be decoded on the way. Here is what the walk is for, said without it: a listener *refers to* a
route configuration, to the configuration of an extension, or to a secret. There is one rule for
each way in which it can, and the walk finds a name if and only if some listener refers to it and
the name is not one that is never asked for.

A configuration that cannot be decoded appears in no rule, so nothing follows from it, and nothing
that stands beside it is lost: without all of these a batch needs the same
(`listenerNeeds_readable`).
-/

namespace ProxyFleet

/-! ## The rules -/

/-- A filter chain is one of a listener. -/
inductive Listener.HasChain (l : Listener) (chain : FilterChain) : Prop
  /-- It is one of those among which a connection is matched. -/
  | matched (h : chain ∈ l.filterChains)
  /-- It is the default one. -/
  | default (h : l.defaultChain = some chain)

/-- A network filter is a connection manager that can be decoded. -/
inductive NetworkFilter.Manages (f : NetworkFilter) (m : ConnectionManager) : Prop
  /-- The configuration is here, says that it is one, and can be decoded. -/
  | intro (config : Payload) (hconfig : f.config = some (.typed config))
      (hurl : config.typeUrl = ConnectionManager.typeUrl)
      (hdecoded : ConnectionManager.schema.decode config.value = .ok m)

/-- A transport socket is the end of a TLS server, and its context can be decoded. -/
inductive TransportSocket.Serves (socket : TransportSocket) (tls : DownstreamTls) : Prop
  /-- The configuration is here, says that it is one, and can be decoded. -/
  | intro (config : Payload) (hconfig : socket.config = some config)
      (hurl : config.typeUrl = DownstreamTls.typeUrl)
      (hdecoded : DownstreamTls.schema.decode config.value = .ok tls)

/-- The part that TLS contexts share names a secret. -/
inductive CommonTls.NamesSecret (common : CommonTls) (name : String) : Prop
  /-- As a certificate. -/
  | certificate (secret : SecretReference) (h : secret ∈ common.certificates)
      (hname : secret.name = name)
  /-- As the rules for the certificates of the other side. -/
  | validation (h : common.validation = some (.discovered ⟨name⟩))
  /-- As the part of these rules that comes from the control plane. -/
  | combined (h : common.validation = some (.combined ⟨some ⟨name⟩⟩))

namespace Listener

/-- A listener takes its routes from a route configuration. -/
inductive RefersToRoute (l : Listener) (name : String) : Prop
  /-- One of its connection managers does. -/
  | intro (chain : FilterChain) (hchain : l.HasChain chain) (f : NetworkFilter)
      (hf : f ∈ chain.filters) (m : ConnectionManager) (hm : f.Manages m)
      (hroutes : m.routes = some (.discovered ⟨name⟩))

/-- A listener takes the configuration of a filter from the control plane. -/
inductive RefersToExtension (l : Listener) (name : String) : Prop
  /-- The filter is a network filter. -/
  | network (chain : FilterChain) (hchain : l.HasChain chain) (f : NetworkFilter)
      (hf : f ∈ chain.filters) (hconfig : f.config = some .discovered) (hname : f.name = name)
  /-- The filter is one for requests, inside a connection manager. -/
  | http (chain : FilterChain) (hchain : l.HasChain chain) (f : NetworkFilter)
      (hf : f ∈ chain.filters) (m : ConnectionManager) (hm : f.Manages m) (h : HttpFilter)
      (hh : h ∈ m.httpFilters) (hconfig : h.config = some .discovered) (hname : h.name = name)

/-- A listener takes a secret from the control plane. -/
inductive RefersToSecret (l : Listener) (name : String) : Prop
  /-- The socket of one of its chains does. -/
  | intro (chain : FilterChain) (hchain : l.HasChain chain) (socket : TransportSocket)
      (hsocket : chain.socket = some socket) (tls : DownstreamTls) (htls : socket.Serves tls)
      (common : CommonTls) (hcommon : tls.common = some common) (hname : common.NamesSecret name)

end Listener

/-! ## The walk, level by level -/

theorem toOption_eq_some_iff {ε α : Type} {x : Except ε α} {a : α} :
    x.toOption = some a ↔ x = .ok a := by
  cases x <;> simp [Except.toOption]

theorem Listener.mem_chains {l : Listener} {chain : FilterChain} :
    chain ∈ l.chains ↔ l.HasChain chain := by
  rw [chains, List.mem_append, Option.mem_toList]
  constructor
  · rintro (h | h)
    · exact .matched h
    · exact .default h
  · rintro (h | h)
    · exact .inl h
    · exact .inr h

namespace NetworkFilter

variable {f : NetworkFilter} {name : String}

theorem connectionManager?_eq_some_iff {m : ConnectionManager} :
    f.connectionManager? = some m ↔ f.Manages m := by
  rw [connectionManager?]
  constructor
  · intro h
    split at h
    · next config hconfig =>
      split at h
      · next hurl => exact .intro config hconfig hurl (toOption_eq_some_iff.mp h)
      · cases h
    · cases h
  · rintro ⟨config, hconfig, hurl, hdecoded⟩
    rw [hconfig]
    dsimp only
    rw [if_pos hurl, hdecoded]
    rfl

theorem Manages.ne_discovered {m : ConnectionManager} (h : f.Manages m) :
    f.config ≠ some .discovered := by
  obtain ⟨config, hconfig, -, -⟩ := h
  rw [hconfig]
  exact fun h ↦ by cases h

theorem mem_routeNames :
    name ∈ f.routeNames ↔ ∃ m, f.Manages m ∧ m.routes = some (.discovered ⟨name⟩) := by
  have hmanager : ∀ m : ConnectionManager,
      name ∈ m.routeNames ↔ m.routes = some (.discovered ⟨name⟩) := by
    intro m
    rw [ConnectionManager.routeNames, Option.mem_toList, Option.map_eq_some_iff]
    constructor
    · rintro ⟨⟨_⟩, hroute, rfl⟩
      obtain ⟨source, hsource, hroute⟩ := Option.bind_eq_some_iff.mp hroute
      cases source with
      | discovered route => rw [hsource, Option.some_inj.mp hroute]
      | inPlace routes => cases hroute
      | byScope routes => cases hroute
    · intro h
      rw [h]
      exact ⟨⟨name⟩, rfl, rfl⟩
  simp only [← connectionManager?_eq_some_iff, ← hmanager]
  rw [routeNames]
  cases f.connectionManager? with
  | none => simp
  | some m => simp

theorem mem_extensionNames : name ∈ f.extensionNames ↔
    f.config = some .discovered ∧ f.name = name ∨
      ∃ m, f.Manages m ∧ ∃ h ∈ m.httpFilters, h.config = some .discovered ∧ h.name = name := by
  have hmanager : ∀ m : ConnectionManager, name ∈ m.extensionNames ↔
      ∃ h ∈ m.httpFilters, h.config = some .discovered ∧ h.name = name := by
    intro m
    simp only [ConnectionManager.extensionNames, List.mem_map, List.mem_filter,
      decide_eq_true_iff, and_assoc]
  rw [extensionNames]
  by_cases hconfig : f.config = some .discovered
  · rw [if_pos hconfig, List.mem_singleton]
    constructor
    · rintro rfl
      exact .inl ⟨hconfig, rfl⟩
    · rintro (⟨-, rfl⟩ | ⟨m, hm, -⟩)
      · rfl
      · exact absurd hconfig hm.ne_discovered
  · rw [if_neg hconfig]
    simp only [hconfig, false_and, false_or, ← connectionManager?_eq_some_iff, ← hmanager]
    cases f.connectionManager? with
    | none => simp
    | some m => simp

end NetworkFilter

theorem ValidationSource.mem_secretNames {rules : ValidationSource} {name : String} :
    name ∈ rules.secretNames ↔ rules = .discovered ⟨name⟩ ∨ rules = .combined ⟨some ⟨name⟩⟩ := by
  cases rules with
  | discovered secret =>
    cases secret
    simp [secretNames, eq_comm]
  | combined rules =>
    obtain ⟨_ | ⟨⟨other⟩⟩⟩ := rules
    · simp [secretNames]
    · simp [secretNames, eq_comm]
  | _ => simp [secretNames]

theorem CommonTls.mem_names {common : CommonTls} {name : String} :
    name ∈ common.certificates.map (·.name) ++
        (match common.validation with
          | some rules => rules.secretNames
          | none => []) ↔
      common.NamesSecret name := by
  rw [List.mem_append, List.mem_map]
  constructor
  · rintro (⟨secret, hsecret, hname⟩ | h)
    · exact .certificate secret hsecret hname
    · split at h
      · next rules hrules =>
        rcases ValidationSource.mem_secretNames.mp h with rfl | rfl
        · exact .validation hrules
        · exact .combined hrules
      · cases h
  · rintro (⟨secret, hsecret, hname⟩ | h | h)
    · exact .inl ⟨secret, hsecret, hname⟩
    · rw [h]
      exact .inr (ValidationSource.mem_secretNames.mpr (.inl rfl))
    · rw [h]
      exact .inr (ValidationSource.mem_secretNames.mpr (.inr rfl))

namespace TransportSocket

variable {socket : TransportSocket} {name : String}

theorem serverTls?_eq_some_iff {tls : DownstreamTls} :
    socket.serverTls? = some tls ↔ socket.Serves tls := by
  rw [serverTls?]
  constructor
  · intro h
    split at h
    · next config hconfig =>
      split at h
      · next hurl => exact .intro config hconfig hurl (toOption_eq_some_iff.mp h)
      · cases h
    · cases h
  · rintro ⟨config, hconfig, hurl, hdecoded⟩
    rw [hconfig]
    dsimp only
    rw [if_pos hurl, hdecoded]
    rfl

theorem mem_secretNames : name ∈ socket.secretNames ↔
    ∃ tls, socket.Serves tls ∧ ∃ common, tls.common = some common ∧ common.NamesSecret name := by
  have hcommon : (∃ tls, socket.Serves tls ∧ ∃ common, tls.common = some common ∧
      common.NamesSecret name) ↔
      ∃ common, socket.serverTls?.bind (·.common) = some common ∧ common.NamesSecret name := by
    simp only [Option.bind_eq_some_iff, serverTls?_eq_some_iff]
    constructor
    · rintro ⟨tls, htls, common, hcommon, hname⟩
      exact ⟨common, ⟨tls, htls, hcommon⟩, hname⟩
    · rintro ⟨common, ⟨tls, htls, hcommon⟩, hname⟩
      exact ⟨tls, htls, common, hcommon, hname⟩
  rw [hcommon, secretNames]
  cases socket.serverTls?.bind (·.common) with
  | none => simp
  | some common =>
    simp only [Option.some.injEq, exists_eq_left']
    exact CommonTls.mem_names

end TransportSocket

/-! ## A batch of listeners -/

theorem mem_namesInChains {listeners : List Listener} {names : FilterChain → List String}
    {name : String} : name ∈ namesInChains listeners names ↔
      ∃ l ∈ listeners, ∃ chain, l.HasChain chain ∧ name ∈ names chain := by
  simp only [namesInChains, List.mem_flatMap, Listener.mem_chains]

theorem mem_properNames {names : List String} {name : String} :
    name ∈ properNames names ↔ name ≠ "" ∧ name ∈ names := by
  rw [properNames, List.mem_filter, decide_eq_true_iff, and_comm]

/-- What a batch of listeners needs is what the listeners refer to, without the names that are never
asked for. -/
structure ListenerNeeds.Exact (needs : ListenerNeeds) (listeners : List Listener) : Prop where
  routes : ∀ name, name ∈ needs.routes ↔
    name ≠ "" ∧ ∃ l ∈ listeners, l.RefersToRoute name
  extensions : ∀ name, name ∈ needs.extensions ↔
    name ≠ "" ∧ ∃ l ∈ listeners, l.RefersToExtension name
  secrets : ∀ name, name ∈ needs.secrets ↔
    name ∉ ["", "ROOTCA", "default"] ∧ ∃ l ∈ listeners, l.RefersToSecret name

theorem exact_listenerNeeds (listeners : List Listener) :
    (listenerNeeds listeners).Exact listeners where
  routes name := by
    simp only [listenerNeeds, NameSet.mem_ofList, mem_properNames, mem_namesInChains,
      List.mem_flatMap, NetworkFilter.mem_routeNames]
    refine and_congr_right' (exists_congr fun l ↦ and_congr_right' ?_)
    constructor
    · rintro ⟨chain, hchain, f, hf, m, hm, hroutes⟩
      exact ⟨chain, hchain, f, hf, m, hm, hroutes⟩
    · rintro ⟨chain, hchain, f, hf, m, hm, hroutes⟩
      exact ⟨chain, hchain, f, hf, m, hm, hroutes⟩
  extensions name := by
    simp only [listenerNeeds, NameSet.mem_ofList, mem_properNames, mem_namesInChains,
      List.mem_flatMap, NetworkFilter.mem_extensionNames]
    refine and_congr_right' (exists_congr fun l ↦ and_congr_right' ?_)
    constructor
    · rintro ⟨chain, hchain, f, hf, ⟨hconfig, hname⟩ | ⟨m, hm, h, hh, hconfig, hname⟩⟩
      · exact .network chain hchain f hf hconfig hname
      · exact .http chain hchain f hf m hm h hh hconfig hname
    · rintro (⟨chain, hchain, f, hf, hconfig, hname⟩ |
        ⟨chain, hchain, f, hf, m, hm, h, hh, hconfig, hname⟩)
      · exact ⟨chain, hchain, f, hf, .inl ⟨hconfig, hname⟩⟩
      · exact ⟨chain, hchain, f, hf, .inr ⟨m, hm, h, hh, hconfig, hname⟩⟩
  secrets name := by
    simp only [listenerNeeds, NameSet.mem_ofList, List.mem_filter, mem_namesInChains,
      List.mem_flatMap, Option.mem_toList, TransportSocket.mem_secretNames, decide_eq_true_iff]
    rw [and_comm]
    refine and_congr_right' (exists_congr fun l ↦ and_congr_right' ?_)
    constructor
    · rintro ⟨chain, hchain, socket, hsocket, tls, htls, common, hcommon, hname⟩
      exact ⟨chain, hchain, socket, hsocket, tls, htls, common, hcommon, hname⟩
    · rintro ⟨chain, hchain, socket, hsocket, tls, htls, common, hcommon, hname⟩
      exact ⟨chain, hchain, socket, hsocket, tls, htls, common, hcommon, hname⟩

theorem ListenerNeeds.Exact.unique {needs needs' : ListenerNeeds} {listeners others : List Listener}
    (h : needs.Exact listeners) (h' : needs'.Exact others)
    (hroutes : ∀ name, (∃ l ∈ others, l.RefersToRoute name) ↔
      ∃ l ∈ listeners, l.RefersToRoute name)
    (hextensions : ∀ name, (∃ l ∈ others, l.RefersToExtension name) ↔
      ∃ l ∈ listeners, l.RefersToExtension name)
    (hsecrets : ∀ name, (∃ l ∈ others, l.RefersToSecret name) ↔
      ∃ l ∈ listeners, l.RefersToSecret name) :
    needs' = needs := by
  have hr : needs'.routes = needs.routes := by
    ext name
    rw [h.routes, h'.routes, hroutes]
  have he : needs'.extensions = needs.extensions := by
    ext name
    rw [h.extensions, h'.extensions, hextensions]
  have hs : needs'.secrets = needs.secrets := by
    ext name
    rw [h.secrets, h'.secrets, hsecrets]
  cases needs
  cases needs'
  cases hr
  cases he
  cases hs
  rfl

/-! ## Configurations that cannot be decoded -/

/-- A filter whose configuration says that it is a connection manager but cannot be decoded. -/
def NetworkFilter.isBroken (f : NetworkFilter) : Bool :=
  match f.config with
  | some (.typed config) =>
    config.typeUrl = ConnectionManager.typeUrl &&
      !(ConnectionManager.schema.decode config.value).isOk
  | _ => false

/-- A socket whose configuration says that it is that of a TLS server but cannot be decoded. -/
def TransportSocket.isBroken (socket : TransportSocket) : Bool :=
  match socket.config with
  | some config =>
    config.typeUrl = DownstreamTls.typeUrl && !(DownstreamTls.schema.decode config.value).isOk
  | none => false

/-- The chain without what is broken. -/
def FilterChain.readable (chain : FilterChain) : FilterChain :=
  { chain with
    filters := chain.filters.filter (!·.isBroken)
    socket := chain.socket.filter (!·.isBroken) }

namespace Listener

/-- The listener without what is broken in its chains. -/
def readable (l : Listener) : Listener :=
  { l with
    filterChains := l.filterChains.map (·.readable)
    defaultChain := l.defaultChain.map (·.readable) }

variable {l : Listener} {name : String}

theorem hasChain_readable {chain : FilterChain} :
    l.readable.HasChain chain ↔ ∃ whole, l.HasChain whole ∧ whole.readable = chain := by
  constructor
  · rintro (h | h)
    · obtain ⟨whole, hwhole, rfl⟩ := List.mem_map.mp h
      exact ⟨whole, .matched hwhole, rfl⟩
    · obtain ⟨whole, hwhole, rfl⟩ := Option.map_eq_some_iff.mp h
      exact ⟨whole, .default hwhole, rfl⟩
  · rintro ⟨whole, h | h, rfl⟩
    · exact .matched (List.mem_map_of_mem h)
    · exact .default (Option.map_eq_some_iff.mpr ⟨whole, h, rfl⟩)

theorem HasChain.readable {chain : FilterChain} (h : l.HasChain chain) :
    l.readable.HasChain chain.readable := hasChain_readable.mpr ⟨chain, h, rfl⟩

theorem mem_filters_readable_of_manages {chain : FilterChain} {f : NetworkFilter}
    {m : ConnectionManager} (hf : f ∈ chain.filters) (hm : f.Manages m) :
    f ∈ chain.readable.filters := by
  refine List.mem_filter.mpr ⟨hf, ?_⟩
  obtain ⟨config, hconfig, hurl, hdecoded⟩ := hm
  rw [NetworkFilter.isBroken, hconfig]
  dsimp only
  rw [hdecoded]
  simp [Except.isOk, Except.toBool]

theorem mem_filters_readable_of_discovered {chain : FilterChain} {f : NetworkFilter}
    (hf : f ∈ chain.filters) (hconfig : f.config = some .discovered) :
    f ∈ chain.readable.filters := by
  refine List.mem_filter.mpr ⟨hf, ?_⟩
  rw [NetworkFilter.isBroken, hconfig]
  rfl

theorem socket_readable {chain : FilterChain} {socket : TransportSocket} {tls : DownstreamTls}
    (hsocket : chain.socket = some socket) (htls : socket.Serves tls) :
    chain.readable.socket = some socket := by
  obtain ⟨config, hconfig, hurl, hdecoded⟩ := htls
  have hwhole : socket.isBroken = false := by
    rw [TransportSocket.isBroken, hconfig]
    dsimp only
    rw [hdecoded]
    simp [Except.isOk, Except.toBool]
  rw [FilterChain.readable]
  dsimp only
  rw [hsocket]
  exact Option.filter_some_pos (by rw [hwhole]; rfl)

theorem refersToRoute_readable : l.readable.RefersToRoute name ↔ l.RefersToRoute name := by
  constructor
  · rintro ⟨chain, hchain, f, hf, m, hm, hroutes⟩
    obtain ⟨whole, hwhole, rfl⟩ := hasChain_readable.mp hchain
    exact ⟨whole, hwhole, f, (List.mem_filter.mp hf).1, m, hm, hroutes⟩
  · rintro ⟨chain, hchain, f, hf, m, hm, hroutes⟩
    exact ⟨_, hchain.readable, f, mem_filters_readable_of_manages hf hm, m, hm, hroutes⟩

theorem refersToExtension_readable :
    l.readable.RefersToExtension name ↔ l.RefersToExtension name := by
  constructor
  · rintro (⟨chain, hchain, f, hf, hconfig, hname⟩ |
      ⟨chain, hchain, f, hf, m, hm, h, hh, hconfig, hname⟩)
    · obtain ⟨whole, hwhole, rfl⟩ := hasChain_readable.mp hchain
      exact .network whole hwhole f (List.mem_filter.mp hf).1 hconfig hname
    · obtain ⟨whole, hwhole, rfl⟩ := hasChain_readable.mp hchain
      exact .http whole hwhole f (List.mem_filter.mp hf).1 m hm h hh hconfig hname
  · rintro (⟨chain, hchain, f, hf, hconfig, hname⟩ |
      ⟨chain, hchain, f, hf, m, hm, h, hh, hconfig, hname⟩)
    · exact .network _ hchain.readable f (mem_filters_readable_of_discovered hf hconfig) hconfig
        hname
    · exact .http _ hchain.readable f (mem_filters_readable_of_manages hf hm) m hm h hh hconfig
        hname

theorem refersToSecret_readable : l.readable.RefersToSecret name ↔ l.RefersToSecret name := by
  constructor
  · rintro ⟨chain, hchain, socket, hsocket, tls, htls, common, hcommon, hname⟩
    obtain ⟨whole, hwhole, rfl⟩ := hasChain_readable.mp hchain
    exact ⟨whole, hwhole, socket, (Option.filter_eq_some_iff.mp hsocket).1, tls, htls, common,
      hcommon, hname⟩
  · rintro ⟨chain, hchain, socket, hsocket, tls, htls, common, hcommon, hname⟩
    exact ⟨_, hchain.readable, socket, socket_readable hsocket htls, tls, htls, common, hcommon,
      hname⟩

end Listener

/-- What is broken contributes nothing, and takes nothing away. -/
theorem listenerNeeds_readable (listeners : List Listener) :
    listenerNeeds (listeners.map (·.readable)) = listenerNeeds listeners := by
  have hmap : ∀ refers : Listener → Prop, (∀ l : Listener, refers l.readable ↔ refers l) →
      ((∃ l ∈ listeners.map (·.readable), refers l) ↔ ∃ l ∈ listeners, refers l) := by
    intro refers h
    constructor
    · rintro ⟨_, hread, hrefers⟩
      obtain ⟨l, hl, rfl⟩ := List.mem_map.mp hread
      exact ⟨l, hl, (h l).mp hrefers⟩
    · rintro ⟨l, hl, hrefers⟩
      exact ⟨l.readable, List.mem_map_of_mem hl, (h l).mpr hrefers⟩
  exact (exact_listenerNeeds listeners).unique (exact_listenerNeeds _)
    (fun _ ↦ hmap _ fun _ ↦ Listener.refersToRoute_readable)
    (fun _ ↦ hmap _ fun _ ↦ Listener.refersToExtension_readable)
    (fun _ ↦ hmap _ fun _ ↦ Listener.refersToSecret_readable)

/-- Neither the order of listeners nor their repetition matters. -/
theorem listenerNeeds_congr {listeners others : List Listener}
    (h : ∀ l, l ∈ others ↔ l ∈ listeners) : listenerNeeds others = listenerNeeds listeners := by
  have hsame : ∀ refers : Listener → Prop,
      (∃ l ∈ others, refers l) ↔ ∃ l ∈ listeners, refers l :=
    fun refers ↦ exists_congr fun l ↦ and_congr_left' (h l)
  exact (exact_listenerNeeds listeners).unique (exact_listenerNeeds others)
    (fun _ ↦ hsame _) (fun _ ↦ hsame _) (fun _ ↦ hsame _)

/-- What a batch of listeners needs, in increasing order: a name is a route configuration, the
configuration of an extension, or a secret to ask for if and only if some listener refers to it as
such and it is not one that is never asked for. Configurations that cannot be decoded might as well
not be there, and the batch might be in another order and hold a listener several times. -/
theorem listenerNeeds_iff_refers (listeners : List Listener) :
    ((listenerNeeds listeners).routes.toList.Pairwise (· < ·) ∧
      (listenerNeeds listeners).extensions.toList.Pairwise (· < ·) ∧
      (listenerNeeds listeners).secrets.toList.Pairwise (· < ·)) ∧
    (listenerNeeds listeners).Exact listeners ∧
    listenerNeeds (listeners.map (·.readable)) = listenerNeeds listeners ∧
    ∀ others, (∀ l, l ∈ others ↔ l ∈ listeners) →
      listenerNeeds others = listenerNeeds listeners := by
  refine ⟨⟨?_, ?_, ?_⟩, ?_, ?_, ?_⟩
  · exact (listenerNeeds listeners).routes.increasing
  · exact (listenerNeeds listeners).extensions.increasing
  · exact (listenerNeeds listeners).secrets.increasing
  · exact exact_listenerNeeds listeners
  · exact listenerNeeds_readable listeners
  · exact fun others ↦ listenerNeeds_congr

/-- A connection manager with these routes, and one filter for requests that asks for its
configuration. -/
def managing (route filter : String) : NetworkFilter where
  name := "manager"
  config := some (.typed ⟨ConnectionManager.typeUrl, ConnectionManager.schema.encode
    ⟨0, "", some (.discovered ⟨route⟩), [⟨filter, some .discovered, false⟩]⟩⟩)

/-- The end of a TLS server with these certificates. -/
def serving (certificates : List String) : TransportSocket where
  name := "tls"
  config := some ⟨DownstreamTls.typeUrl, DownstreamTls.schema.encode
    ⟨some ⟨certificates.map SecretReference.mk, some (.combined ⟨some ⟨"ROOTCA"⟩⟩)⟩⟩⟩

/-- A listener with a chain in which something is broken, and a default chain. -/
def gateway : Listener where
  name := "gateway"
  filterChains := [{
    filters := [⟨"broken", some (.typed ⟨ConnectionManager.typeUrl, [0xff, 0xff]⟩)⟩,
      managing "" "authz", ⟨"wasm", some .discovered⟩]
    socket := some ⟨"tls", some ⟨DownstreamTls.typeUrl, [0xff]⟩⟩
    name := "" }]
  defaultChain := some {
    filters := [managing "routes" ""]
    socket := some (serving ["cert", "", "default"])
    name := "" }
  statName := ""

/-- All that can be read is found, in whatever order, and nothing that is never asked for. -/
theorem listenerNeeds_iff_refers_gateway :
    listenerNeeds [gateway, gateway] = listenerNeeds [gateway] ∧
      listenerNeeds ([gateway].map (·.readable)) =
        ⟨.ofList ["routes"], .ofList ["cert"], .ofList ["authz", "wasm"]⟩ := by
  obtain ⟨-, -, hreadable, hsame⟩ := listenerNeeds_iff_refers [gateway]
  refine ⟨hsame _ (by simp), hreadable.trans ?_⟩
  decide +kernel

end ProxyFleet
