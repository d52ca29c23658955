import WildBuzzard.Net.General

/-!
# Confinement of the local network

Which sockets a request attempts, whatever the resolver answers and whatever becomes of the
connections (`Exchange.outcome_sat`): **only addresses among the candidates, each of a space that
the initiator may reach, and none on a restricted port**; and the authority of the response carries
the space of the peer that it was read from.

A `Chain` is a sequence of requests whose initiators are responses obtained in it, or the first one.
`chain_confined` is induction over a chain for any set of spaces that the authorized transitions do
not leave; `local_network_confinement` has the two instances: without a permission a chain that
starts in public space stays there, and without the permission for local targets it reaches no local
address.
-/

namespace WildBuzzard.Net

open Lib Call List GeneralWebClient Outcome

/-! ## Attempts -/

namespace Network

/-- Sockets were attempted, each of them allowed, and each used up a connection. -/
structure Made (P : SocketAddr → Prop) (net : Network) (made : List SocketAddr) (t : Network) :
    Prop where
  attempts_eq : t.attempts = net.attempts ++ made
  connections_eq : t.connections = net.connections.drop made.length
  answer_eq : t.answer = net.answer
  allowed : ∀ a ∈ made, P a

variable {P : SocketAddr → Prop} {net t u : Network}

lemma Made.refl (net : Network) : Made P net [] net :=
  ⟨by simp, by simp, rfl, by simp⟩

lemma Made.trans {made made' : List SocketAddr} (h : Made P net made t)
    (h' : Made P t made' u) : Made P net (made ++ made') u := by
  refine ⟨?_, ?_, h'.answer_eq.trans h.answer_eq, ?_⟩
  · rw [h'.attempts_eq, h.attempts_eq, append_assoc]
  · rw [h'.connections_eq, h.connections_eq, drop_drop, length_append]
  · intro a ha
    rcases mem_append.mp ha with ha | ha
    · exact h.allowed a ha
    · exact h'.allowed a ha

/-- No socket is attempted. -/
def Idle {ε α : Type} (m : Call Network ε α) : Prop :=
  ∀ (P : SocketAddr → Prop) net, (m net).Ends (fun _ t => Made P net [] t)
    (fun _ t => Made P net [] t)

lemma checkControl_idle (operation : Operation) : Idle (checkControl operation) := by
  intro P net
  unfold checkControl
  split <;> exact ⟨by simp, by simp, rfl, by simp⟩

lemma ofExcept_idle {ε α : Type} (x : Except ε α) : Idle (Call.ofExcept x : Call Network ε α) :=
  fun _ net => sat_ofExcept.mpr ⟨fun _ _ => .refl net, fun _ _ => .refl net⟩

lemma Idle.bind {ε α β : Type} {m : Call Network ε α} {f : α → Call Network ε β} (hm : Idle m)
    (hf : ∀ a, Idle (f a)) : Idle (m >>= f) := by
  intro P net
  refine sat_bind.mpr ((hm P net).imp fun a t ht => ?_)
  refine (hf a P t).imp₂ ?_ ?_
  · exact fun _ u hu => ht.trans hu
  · exact fun _ u hu => ht.trans hu

end Network

open Network

variable {address : SocketAddr}

lemma awaitConnected_idle (address : SocketAddr) (waits : List Wait) :
    Idle (awaitConnected address waits) := by
  induction waits with
  | nil => exact (checkControl_idle _).bind fun _ _ net => Made.refl net
  | cons wait rest ih =>
    refine (checkControl_idle _).bind fun _ => (ofExcept_idle _).bind fun connected => ?_
    cases connected with
    | true => exact checkControl_idle _
    | false => exact ih

/-- **A connection stands only with the peer it was made for.** -/
theorem pollConnected_eq_true {wait : Wait}
    (h : pollConnected address wait = .ok true) : wait = .peer (.ok address) := by
  unfold pollConnected at h
  split at h <;> try contradiction
  split_ifs at h with hpeer
  rw [hpeer]

lemma awaitConnected_peer {waits : List Wait} {net t : Network} {a : Unit}
    (h : awaitConnected address waits net = .ok a t) : .peer (.ok address) ∈ waits := by
  induction waits generalizing net with
  | nil =>
    obtain ⟨_, _, -, hfail⟩ := bind_eq_ok.mp h
    simp [Call.fail] at hfail
  | cons wait rest ih =>
    obtain ⟨_, s, -, h⟩ := bind_eq_ok.mp h
    obtain ⟨connected, u, hpoll, h⟩ := bind_eq_ok.mp h
    cases connected with
    | true =>
      rw [pollConnected_eq_true (ofExcept_eq_ok hpoll).1]
      exact mem_cons_self
    | false => exact mem_cons_of_mem _ (ih h)

variable {P : SocketAddr → Prop}

section

variable (h : P address) (net : Network)
include h

/-- A socket is attempted: the next connection is the one that is made, or it is refused. -/
lemma attempt_sat (connection : Connection) (t : Network)
    (hattempt : attempt address net = .ok connection t) :
    Made P net [address] t ∧ (net.connections.head? = some connection ∨ connection = .refused) := by
  obtain ⟨rfl, rfl⟩ := ok.inj hattempt
  refine ⟨⟨rfl, by simp, rfl, by simpa using h⟩, ?_⟩
  cases net.connections with
  | nil => exact .inr rfl
  | cons first rest => exact .inl rfl

/-- What one connect attempt does: it may be cancelled before the socket is attempted. -/
lemma driveConnectAttempt_sat :
    (driveConnectAttempt address net).Ends
      (fun connection t => Made P net [address] t ∧ net.connections.head? = some connection ∧
        .peer (.ok address) ∈ connection.waits)
      (fun _ t => ∃ made, Made P net made t) := by
  refine sat_seq (checkControl_idle .connect P net) ?_ (fun _ t ht => ⟨[], ht⟩)
  intro _ s hs
  rw [bind_apply]
  cases hattempt : attempt address s with
  | err e t => simp [attempt] at hattempt
  | halt reason => simp [attempt] at hattempt
  | ok connection t =>
    obtain ⟨hmade, hfirst⟩ := attempt_sat h s connection t hattempt
    have hone : Made P net [address] t := hs.trans hmade
    have hconnections : s.connections = net.connections := by simpa using hs.connections_eq
    rw [hconnections] at hfirst
    refine sat_ofExcept_bind.mpr ⟨fun _ hstart => ?_, fun _ _ => ⟨_, hone⟩⟩
    have hsome : net.connections.head? = some connection := by
      refine hfirst.resolve_right fun hrefused => ?_
      rw [hrefused] at hstart
      simp [Connection.refused, Except.mapError] at hstart
    rw [bind_apply]
    have hwait := awaitConnected_idle address connection.waits P t
    cases hrun : awaitConnected address connection.waits t with
    | ok _ u =>
      have hend := hone.trans (hwait.of_ok hrun)
      exact ⟨by simpa using hend, hsome, awaitConnected_peer hrun⟩
    | err e u => exact ⟨_, hone.trans (hwait.of_err hrun)⟩
    | halt reason => exact hwait.of_halt hrun

lemma connectGeneralInterruptible_sat :
    (connectGeneralInterruptible address net).Ends
      (fun connection t => Made P net [address] t ∧ net.connections.head? = some connection ∧
        .peer (.ok address) ∈ connection.waits)
      (fun _ t => ∃ made, Made P net made t) := by
  refine sat_bind.mpr ((driveConnectAttempt_sat h net).imp fun connection t ht => ?_)
  exact sat_ofExcept_bind.mpr ⟨fun _ _ => ht, fun _ _ => ⟨_, ht.1⟩⟩

end

/-- A connection stands: it is the one of the last socket that was attempted, its peer has that
address, and this is the space of that address. -/
def Connected (P : SocketAddr → Prop) (net : Network) (connection : Connection)
    (space : IpAddressSpace) (t : Network) : Prop :=
  ∃ made address, Made P net (made ++ [address]) t ∧
    net.connections[made.length]? = some connection ∧ .peer (.ok address) ∈ connection.waits ∧
    space = classifyIpAddressSpace address.ip

section execution

variable {P : SocketAddr → Prop} {net t u : Network} {made : List SocketAddr}

lemma Connected.of_made {connection : Connection} {space : IpAddressSpace}
    (h : Made P net made t) (h' : Connected P t connection space u) :
    Connected P net connection space u := by
  obtain ⟨made', address, hmade, hconnection, hpeer, hspace⟩ := h'
  refine ⟨made ++ made', address, ?_, ?_, hpeer, hspace⟩
  · rw [append_assoc]
    exact h.trans hmade
  · rw [h.connections_eq, getElem?_drop] at hconnection
    rw [length_append]
    exact hconnection

/-- A call that comes back to the loop after a failed attempt, or ends it. -/
def EndsLoop (P : SocketAddr → Prop) (net : Network) (o : Outcome Network InternalExecutionError
      (Connection × ConnectionSecurity × IpAddressSpace)) : Prop :=
  o.Ends (fun p t => Connected P net p.1 p.2.2 t) (fun _ t => ∃ made, Made P net made t)

lemma EndsLoop.of_made
    {o : Outcome Network InternalExecutionError (Connection × ConnectionSecurity × IpAddressSpace)}
    (h : Made P net made t) (ho : EndsLoop P t o) : EndsLoop P net o := by
  refine Sat.mono ho ?_ ?_ fun _ hf => hf
  · exact fun p u hu => .of_made h hu
  · rintro e u ⟨made', hu⟩
    exact ⟨_, h.trans hu⟩

/-- However a failure is taken, the loop goes on or the request fails. -/
lemma EndsLoop.react {next : ConnectProgress →
      Call Network InternalExecutionError (Connection × ConnectionSecurity × IpAddressSpace)}
    (hnext : ∀ progress t, EndsLoop P t (next progress t)) (reaction : Reaction) (net : Network) :
    EndsLoop P net (react next reaction net) := by
  cases reaction with
  | stop error => exact ⟨_, Made.refl net⟩
  | next progress => exact hnext progress net
  | recheck operation progress =>
    refine sat_bind.mpr (sat_mapError.mpr ((checkControl_idle operation P net).imp₂ ?_ ?_))
    · exact fun _ t ht => EndsLoop.of_made ht (hnext progress t)
    · exact fun _ t ht => ⟨_, ht⟩

/-- **Every address of the loop is checked right before its socket is attempted.** -/
theorem connectAddresses_sat (request : GeneralWebRequest) (parent : IpAddressSpace)
    (failure : ConnectProgress → Error) (addresses : List SocketAddr)
    (hP : ∀ a ∈ addresses, authorizeAddressSpaceTransition parent (classifyIpAddressSpace a.ip)
      request.networkAccess.permissions = .ok () → P a) (progress : ConnectProgress)
    (net : Network) :
    EndsLoop P net (connectAddresses request parent failure addresses progress net) := by
  induction addresses generalizing progress net with
  | nil => exact ⟨_, Made.refl net⟩
  | cons address rest ih =>
    have hrest := ih fun a ha => hP a (mem_cons_of_mem _ ha)
    refine sat_ofExcept_bind.mpr ⟨fun _ hauthorized => ?_, fun _ _ => ⟨_, Made.refl net⟩⟩
    have hallowed : P address := by
      apply hP address mem_cons_self
      exact except_mapError_eq_ok hauthorized
    refine sat_bind.mpr (sat_settle.mpr
      ((connectGeneralInterruptible_sat hallowed net).imp₂ ?_ ?_))
    · rintro connection t ⟨hmade, hconnection, hpeer⟩
      have hconnected : Connected P net connection (classifyIpAddressSpace address.ip) t :=
        ⟨[], address, hmade, by simpa [head?_eq_getElem?] using hconnection, hpeer, rfl⟩
      dsimp only
      split_ifs
      · exact hconnected
      · cases connection.handshake with
        | ok security => exact hconnected
        | error error => exact EndsLoop.of_made hmade (EndsLoop.react hrest _ t)
    · rintro error t ⟨made, hmade⟩
      exact EndsLoop.of_made hmade (EndsLoop.react hrest _ t)

lemma connectTransport_sat (client : GeneralWebClient) (request : GeneralWebRequest)
    (parent : IpAddressSpace) (addresses : List SocketAddr)
    (hP : ∀ a ∈ addresses, authorizeAddressSpaceTransition parent (classifyIpAddressSpace a.ip)
      request.networkAccess.permissions = .ok () → P a) (net : Network) :
    EndsLoop P net (client.connectTransport request addresses parent net) := by
  refine sat_check_bind.mpr ⟨fun _ => ?_, fun _ => ⟨_, Made.refl net⟩⟩
  apply connectAddresses_sat
  exact fun a ha => hP a (mem_of_mem_take ha)

end execution

/-! ## One request -/

/-- The addresses are collected from the answer. -/
lemma collectBoundedUnique_subset {limit : UInt64} {normalized answers addresses : List IpAddr}
    (h : collectBoundedUnique limit normalized answers = .ok addresses) :
    ∀ a ∈ addresses, a ∈ normalized ∨ a ∈ answers := by
  induction answers generalizing normalized with
  | nil =>
    unfold collectBoundedUnique at h
    split_ifs at h
    obtain rfl := Except.ok.inj h
    exact fun a ha => .inl ha
  | cons answer rest ih =>
    unfold collectBoundedUnique at h
    intro a ha
    split_ifs at h
    · rcases ih h a ha with ha | ha
      · exact .inl ha
      · exact .inr (mem_cons_of_mem _ ha)
    · rcases ih h a ha with ha | ha
      · rcases mem_append.mp ha with ha | ha
        · exact .inl ha
        · exact .inr (mem_singleton.mp ha ▸ mem_cons_self)
      · exact .inr (mem_cons_of_mem _ ha)

/-- A request: a client, what is asked of it, what came of preparing the request, and what the
network does. -/
structure Exchange where
  client : GeneralWebClient
  request : GeneralWebRequest
  prepared : Except Error Unit
  network : Network

namespace Exchange

variable (x : Exchange)

/-- The network before the request: no socket was attempted. -/
def start : Network := { x.network with attempts := [] }

def outcome : Outcome Network InternalExecutionError GeneralWebResponse :=
  x.client.executeInternal x.request x.prepared x.start

/-- The sockets that the request attempts. -/
def attempts : List SocketAddr := (x.outcome.state?.map (·.attempts)).getD []

/-- The authority of the response that the request obtains. -/
def authority? : Option CommittedResponseAuthority := x.outcome.value?.map (·.authority)

/-- The address is a candidate: the one the origin names, or one of the resolver's answer. -/
def Candidate (a : SocketAddr) : Prop :=
  a.port = x.request.target.origin.port ∧
    match x.request.target.origin.host with
    | .ip address => a.ip = address
    | .domain _ => ∃ answers, x.network.answer = .ok answers ∧ a.ip ∈ answers

/-- The initiator's space may reach the address, with the permissions of the request. -/
def Authorized (a : SocketAddr) : Prop :=
  ∃ parent, x.request.networkAccess.parentAddressSpace x.client.clientIdentity = .ok parent ∧
    authorizeAddressSpaceTransition parent (Blocks.space a.ip)
      x.request.networkAccess.permissions = .ok ()

/-- What a socket may be attempted to. -/
structure Allowed (a : SocketAddr) : Prop where
  candidate : x.Candidate a
  authorized : x.Authorized a
  port : a.port ∉ restrictedWebPorts

/-- The response was read from the connection of the last socket that was attempted, whose peer has
the address of that socket, and the authority carries the space of that address. -/
structure ReadFrom (response : GeneralWebResponse) (t : Network) (address : SocketAddr)
    (connection : Connection) : Prop where
  last : ∃ before, t.attempts = before ++ [address] ∧
    x.network.connections[before.length]? = some connection
  peer : .peer (.ok address) ∈ connection.waits
  space : response.authority.addressSpace = Blocks.space address.ip
  issuer : response.authority.clientIdentity = x.client.clientIdentity
  read : ∃ checks s, executePrepared x.request.method x.request.redirectPolicy x.client.config.http
    connection.written (.new connection.script checks) = .ok response.response s

variable {x} {authority : CommittedResponseAuthority} (P : SocketAddr → Prop)

lemma resolveAddresses_sat :
    (x.client.resolveAddresses x.request x.start).Ends
      (fun addresses t => Made P x.start [] t ∧ ∀ a ∈ addresses, x.Candidate a)
      (fun _ t => Made P x.start [] t) := by
  unfold resolveAddresses Candidate
  cases x.request.target.origin.host with
  | ip address =>
    refine sat_bind.mpr ((checkControl_idle _ P x.start).imp fun _ t ht => ⟨ht, ?_⟩)
    intro a ha
    obtain rfl := mem_singleton.mp ha
    exact ⟨rfl, rfl⟩
  | domain name =>
    refine sat_bind.mpr ((checkControl_idle _ P x.start).imp fun _ t ht => ?_)
    refine sat_read_bind.mpr (sat_ofExcept_bind.mpr ⟨fun answers hanswers => ?_, fun _ _ => ht⟩)
    refine sat_ofExcept.mpr ⟨fun addresses haddresses => ⟨ht, fun a ha => ?_⟩, fun _ _ => ht⟩
    unfold normalizeAddresses at haddresses
    cases hcollect : collectBoundedUnique x.client.config.maxDnsCandidates [] answers with
    | error e =>
      rw [hcollect] at haddresses
      simp [bind, Except.bind] at haddresses
    | ok unique =>
      rw [hcollect] at haddresses
      obtain rfl := Except.ok.inj haddresses
      obtain ⟨address, haddress, rfl⟩ := mem_map.mp ha
      have hanswer := collectBoundedUnique_subset hcollect address haddress
      exact ⟨rfl, answers, ht.answer_eq ▸ hanswers, by simpa using hanswer⟩

lemma respond_sat (client : GeneralWebClient) (request : GeneralWebRequest)
    (connection : Connection) (net : Network) :
    (client.respond request connection net).Ends (fun response t => Made P net [] t ∧ ∃ checks s,
        executePrepared request.method request.redirectPolicy client.config.http
          connection.written (.new connection.script checks) = .ok response s)
      (fun _ t => Made P net [] t) := by
  have hspec := executePrepared_sat request.method request.redirectPolicy client.config.http
    connection.written (s := Metered.new connection.script net.checks) (Nat.zero_le _)
    (HeaderBudget.sound_new _ _) (Nat.zero_le _)
  unfold respond
  cases hrun : executePrepared request.method request.redirectPolicy client.config.http
      connection.written (Metered.new connection.script net.checks) with
  | ok response s => exact ⟨⟨by simp, by simp, rfl, by simp⟩, _, s, hrun⟩
  | err e s => exact ⟨by simp, by simp, rfl, by simp⟩
  | halt reason => exact hspec.of_halt hrun

/-- **What a request attempts and what its response is evidence of.** -/
theorem outcome_sat (x : Exchange) :
    x.outcome.Ends (fun response t => (∀ a ∈ t.attempts, x.Allowed a) ∧
        ∃ address connection, x.ReadFrom response t address connection)
      (fun _ t => ∀ a ∈ t.attempts, x.Allowed a) := by
  have hmade : ∀ {made t}, Made x.Allowed x.start made t → ∀ a ∈ t.attempts, x.Allowed a := by
    intro made t h a ha
    rw [h.attempts_eq] at ha
    exact h.allowed a (by simpa [start] using ha)
  refine sat_check_bind.mpr ⟨fun hport => ?_, fun _ => hmade (Made.refl x.start)⟩
  refine sat_ofExcept_bind.mpr ⟨fun parent hparent => ?_, fun _ _ => hmade (Made.refl x.start)⟩
  refine sat_ofExcept_bind.mpr ⟨fun _ _ => ?_, fun _ _ => hmade (Made.refl x.start)⟩
  refine sat_bind.mpr (sat_mapError.mpr ((resolveAddresses_sat x.Allowed).imp₂ ?_ ?_))
  swap
  · exact fun _ t ht => hmade ht
  rintro addresses t ⟨ht, hcandidates⟩
  have hallowed : ∀ a ∈ addresses, authorizeAddressSpaceTransition parent
      (classifyIpAddressSpace a.ip) x.request.networkAccess.permissions = .ok () →
        x.Allowed a := by
    intro a ha hauthorized
    rw [classifyIpAddressSpace_eq] at hauthorized
    refine ⟨hcandidates a ha, ⟨parent, except_mapError_eq_ok hparent, hauthorized⟩, ?_⟩
    rw [(hcandidates a ha).1, ← isRestrictedWebPort_iff]
    exact hport
  have hloop := EndsLoop.of_made ht
    (connectTransport_sat x.client x.request parent addresses hallowed t)
  refine sat_bind.mpr (Sat.mono hloop ?_ ?_ fun _ hf => hf)
  swap
  · rintro e u ⟨made, hu⟩
    exact hmade hu
  rintro ⟨connection, security, space⟩ u ⟨before, address, hu, hconnection, hpeer, rfl⟩
  refine sat_bind.mpr (sat_mapError.mpr ((respond_sat x.Allowed x.client x.request connection
    u).imp₂ ?_ ?_))
  · rintro response v ⟨hv, hread⟩
    have hend := hu.trans hv
    refine ⟨hmade hend, address, connection, ⟨before, ?_, hconnection⟩, hpeer, ?_, rfl, hread⟩
    · simpa [start] using hend.attempts_eq
    · exact classifyIpAddressSpace_eq address.ip
  · exact fun _ v hv => hmade (hu.trans hv)

lemma allowed_of_attempts {a : SocketAddr} (h : a ∈ x.attempts) : x.Allowed a := by
  have hspec := x.outcome_sat
  unfold attempts at h
  cases hrun : x.outcome with
  | ok response t =>
    rw [hrun] at h
    exact (hspec.of_ok hrun).1 a h
  | err e t =>
    rw [hrun] at h
    exact hspec.of_err hrun a h
  | halt reason => exact (hspec.of_halt hrun).elim

/-- The space that a response vouches for is that of an address that was attempted. -/
lemma space_of_authority (h : x.authority? = some authority) :
    ∃ a ∈ x.attempts, authority.addressSpace = Blocks.space a.ip := by
  unfold authority? at h
  cases hrun : x.outcome with
  | ok response t =>
    rw [hrun] at h
    obtain rfl := Option.some.inj h
    obtain ⟨-, address, connection, hread⟩ := x.outcome_sat.of_ok hrun
    obtain ⟨before, hlast, -⟩ := hread.last
    refine ⟨address, ?_, hread.space⟩
    rw [attempts, hrun]
    show address ∈ t.attempts
    rw [hlast]
    exact mem_append_right before mem_cons_self
  | err e t => simp [hrun, value?] at h
  | halt reason => simp [hrun, value?] at h

/-- The initiator of the request is the document of a response. -/
def InitiatedBy (x : Exchange) (authority : CommittedResponseAuthority) : Prop :=
  x.request.networkAccess.initiator = .committedDocument authority

lemma initiatedBy_of_issued {issuer : GeneralWebClient}
    {permissions : LocalNetworkAccessPermissions}
    (h : issuer.networkAccessForCommittedResponse authority permissions =
      .ok x.request.networkAccess) : x.InitiatedBy authority := by
  unfold networkAccessForCommittedResponse at h
  split_ifs at h
  rw [InitiatedBy, ← Except.ok.inj h]

/-- What is attempted for a document, its space is authorized to reach. -/
lemma authorized_of_initiatedBy {a : SocketAddr}
    (hinitiated : x.InitiatedBy authority) (ha : a ∈ x.attempts) :
    authorizeAddressSpaceTransition authority.addressSpace (Blocks.space a.ip)
      x.request.networkAccess.permissions = .ok () := by
  obtain ⟨parent, hparent, hauthorized⟩ := (allowed_of_attempts ha).authorized
  unfold GeneralWebNetworkAccess.parentAddressSpace at hparent
  rw [hinitiated] at hparent
  dsimp only at hparent
  split_ifs at hparent
  rw [Except.ok.inj hparent]
  exact hauthorized

end Exchange

/-! ## Chains of requests -/

/-- Requests whose initiators are the document of `first` or of a response that a request before
them obtained. -/
inductive Chain (first : CommittedResponseAuthority) : List Exchange → Prop where
  | start : Chain first []
  | next {chain : List Exchange} {x : Exchange} {authority : CommittedResponseAuthority} :
      Chain first chain → (authority = first ∨ ∃ y ∈ chain, y.authority? = some authority) →
      x.InitiatedBy authority → Chain first (chain ++ [x])

/-- **A chain stays among spaces that no authorized transition of its requests leaves.** -/
theorem chain_confined {S : IpAddressSpace → Prop} {first : CommittedResponseAuthority}
    {chain : List Exchange} (hchain : Chain first chain) (hfirst : S first.addressSpace)
    (hclosed : ∀ x ∈ chain, ∀ parent target, S parent → authorizeAddressSpaceTransition parent
      target x.request.networkAccess.permissions = .ok () → S target) :
    ∀ x ∈ chain, ∀ a ∈ x.attempts, S (Blocks.space a.ip) := by
  induction hchain with
  | start => exact fun x hx => absurd hx not_mem_nil
  | @next chain x authority _ hinitiator hinitiated ih =>
    have hbefore := ih fun y hy => hclosed y (mem_append_left _ hy)
    -- the initiator is in one of the spaces, so what it may reach is as well
    have hspace : S authority.addressSpace := by
      rcases hinitiator with rfl | ⟨y, hy, hauthority⟩
      · exact hfirst
      · obtain ⟨a, ha, hspace⟩ := Exchange.space_of_authority hauthority
        rw [hspace]
        exact hbefore y hy a ha
    intro y hy a ha
    rcases mem_append.mp hy with hy | hy
    · exact hbefore y hy a ha
    · obtain rfl := mem_singleton.mp hy
      exact hclosed y (by simp) _ _ hspace (Exchange.authorized_of_initiatedBy hinitiated ha)

lemma public_of_authorize {target : IpAddressSpace} {permissions : LocalNetworkAccessPermissions}
    (h : authorizeAddressSpaceTransition .publicSpace target permissions = .ok ())
    (hlocal : permissions.forLocal ≠ .granted) (hprivate : permissions.forPrivate ≠ .granted) :
    target = .publicSpace := by
  have hdepth := depth_le_of_authorize h hlocal hprivate
  have hknown := known_of_authorize h
  cases target <;> simp_all [IpAddressSpace.depth]

/-- **Confinement of the local network.** Whatever the resolver answers and whatever becomes of the
connections, a request attempts sockets only to candidates that the initiator's space may reach, on
no restricted port, and its response carries the space of the peer it was read from. So a chain that
starts at a public document attempts public addresses only if no permission is granted, and no local
address if at most the permission for private targets is. -/
theorem local_network_confinement :
    (∀ x : Exchange, (∀ reason, x.outcome ≠ .halt reason) ∧ (∀ a ∈ x.attempts, x.Allowed a) ∧
      ∀ response t, x.outcome = .ok response t →
        ∃ address connection, x.ReadFrom response t address connection) ∧
    ∀ first chain, first.addressSpace = .publicSpace → Chain first chain →
      ((∀ x ∈ chain, x.request.networkAccess.permissions.forLocal ≠ .granted ∧
          x.request.networkAccess.permissions.forPrivate ≠ .granted) →
        ∀ x ∈ chain, ∀ a ∈ x.attempts, Blocks.space a.ip = .publicSpace) ∧
      ((∀ x ∈ chain, x.request.networkAccess.permissions.forLocal ≠ .granted) →
        ∀ x ∈ chain, ∀ a ∈ x.attempts, Blocks.space a.ip ≠ .localSpace) := by
  refine ⟨fun x => ⟨fun reason hrun => x.outcome_sat.of_halt hrun, fun a ha =>
    Exchange.allowed_of_attempts ha, fun response t hrun => (x.outcome_sat.of_ok hrun).2⟩, ?_⟩
  intro first chain hfirst hchain
  constructor
  · intro hdenied
    apply chain_confined (S := (· = .publicSpace)) hchain hfirst
    rintro x hx parent target rfl hauthorized
    exact public_of_authorize hauthorized (hdenied x hx).1 (hdenied x hx).2
  · intro hdenied
    apply chain_confined (S := (· ≠ .localSpace)) hchain (by rw [hfirst]; decide)
    rintro x hx parent target hparent hauthorized rfl
    exact hparent (local_of_authorize hauthorized (hdenied x hx))

/-- A document that was obtained from a public address. -/
def publicDocument : CommittedResponseAuthority :=
  { clientIdentity := 1, target := ⟨⟨.https, .domain "example", 443⟩⟩, security := .cleartext,
    addressSpace := .publicSpace }

/-- A request for a document, without permissions. -/
def requestFor (authority : CommittedResponseAuthority) (host : WebHost) (network : Network) :
    Exchange :=
  { client := { config := ⟨.default, 8, 8⟩, clientIdentity := 1 }
    request :=
      { method := .get, target := ⟨⟨.http, host, 80⟩⟩,
        networkAccess :=
          { initiator := .committedDocument authority, permissions := ⟨.denied, .denied⟩ },
        redirectPolicy := .manual }
    prepared := .ok ()
    network }

/-- A connection that stands and answers at once. -/
def answering (address : SocketAddr) : Connection :=
  { start := .ok (), waits := [.idle, .peer (.ok address)], intoStd := .ok (),
    handshake := .ok .cleartext, written := .ok (),
    script := [.data 72 (ascii "TTP/1.1 204 No Content\r\n\r\n")] }

/-- The first address of a name refuses the connection and the second answers; a third is local. -/
def mixedAnswer : Exchange :=
  requestFor publicDocument (.domain "example")
    { checks := [], answer := .ok [.v4 ⟨8, 8, 8, 8⟩, .v4 ⟨8, 8, 4, 4⟩, .v4 ⟨127, 0, 0, 1⟩],
      connections := [.refused, answering ⟨.v4 ⟨8, 8, 4, 4⟩, 80⟩], attempts := [] }

/-- The document that was obtained asks for a public address that is mapped into IPv6. -/
def mappedAddress : Exchange :=
  requestFor (mixedAnswer.authority?.getD publicDocument)
    (.ip (.v6 ⟨0, 0, 0, 0, 0, 0xffff, 0x0808, 0x0808⟩))
    { checks := [], answer := .error .cancelled, connections := [], attempts := [] }

/-- The document that was obtained asks for the loopback address, mapped into IPv6. -/
def mappedLoopback : Exchange :=
  requestFor (mixedAnswer.authority?.getD publicDocument)
    (.ip (.v6 ⟨0, 0, 0, 0, 0, 0xffff, 0x7f00, 0x0001⟩))
    { checks := [], answer := .error .cancelled, connections := [], attempts := [] }

theorem local_network_confinement_mixed :
    mixedAnswer.attempts = [⟨.v4 ⟨8, 8, 8, 8⟩, 80⟩, ⟨.v4 ⟨8, 8, 4, 4⟩, 80⟩] ∧
    mappedAddress.attempts = [⟨.v6 ⟨0, 0, 0, 0, 0, 0xffff, 0x0808, 0x0808⟩, 80⟩] ∧
    mappedLoopback.attempts = [] ∧
    ∀ x ∈ [mixedAnswer, mappedAddress, mappedLoopback], ∀ a ∈ x.attempts,
      x.Allowed a ∧ Blocks.space a.ip = .publicSpace ∧ Blocks.space a.ip ≠ .localSpace := by
  refine ⟨by decide +kernel, by decide +kernel, by decide +kernel, fun x hx a ha => ?_⟩
  have hauthority : mixedAnswer.authority? =
      some (mixedAnswer.authority?.getD publicDocument) := by decide +kernel
  have hchain : Chain publicDocument [mixedAnswer, mappedAddress, mappedLoopback] := by
    have hissued : mixedAnswer.client.networkAccessForCommittedResponse publicDocument
        ⟨.denied, .denied⟩ = .ok mixedAnswer.request.networkAccess := rfl
    have h1 : Chain publicDocument [mixedAnswer] :=
      .next .start (.inl rfl) (Exchange.initiatedBy_of_issued hissued)
    have h2 : Chain publicDocument [mixedAnswer, mappedAddress] :=
      .next h1 (.inr ⟨mixedAnswer, List.mem_cons_self, hauthority⟩) rfl
    exact .next h2 (.inr ⟨mixedAnswer, List.mem_cons_self, hauthority⟩) rfl
  have hdenied : ∀ y ∈ [mixedAnswer, mappedAddress, mappedLoopback],
      y.request.networkAccess.permissions = ⟨.denied, .denied⟩ := by
    simp [mixedAnswer, mappedAddress, mappedLoopback, requestFor]
  obtain ⟨hone, hall⟩ := local_network_confinement
  obtain ⟨hpublic, hlocal⟩ := hall publicDocument _ rfl hchain
  refine ⟨(hone x).2.1 a ha, hpublic (fun y hy => ?_) x hx a ha,
    hlocal (fun y hy => ?_) x hx a ha⟩
  · rw [hdenied y hy]
    decide
  · rw [hdenied y hy]
    decide

end WildBuzzard.Net
